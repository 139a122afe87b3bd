import InfraOps.Support.Xml

/-!
# Reading what was written

A processor reads a written document as the tree it was written from, with the line ends of
its texts normalised, exactly when all their characters are allowed.
-/

namespace InfraOps.Xml

/-! ## Names and attributes -/

theorem space_of_nameChar {c : Char} (h : nameChar c = true) : space c = false := by
  by_contra hspace
  simp only [space, Bool.or_eq_true, decide_eq_true_eq, Bool.not_eq_false] at hspace
  rcases hspace with ((rfl | rfl) | rfl) | rfl <;> revert h <;> decide

theorem nameChar_of_nameStart {c : Char} (h : nameStart c = true) : nameChar c = true := by
  simp [nameChar, h]

/-- A plain name begins with a letter. -/
theorem plainName_cases {name : Text} (h : plainName name = true) :
    ∃ c cs, name = c :: cs ∧ nameStart c = true ∧ ∀ d ∈ name, nameChar d = true := by
  cases name with
  | nil => simp [plainName] at h
  | cons c cs =>
    simp only [plainName, Bool.and_eq_true, List.all_eq_true] at h
    refine ⟨c, cs, rfl, h.1, fun d hd => ?_⟩
    rcases List.mem_cons.mp hd with rfl | hd
    · exact nameChar_of_nameStart h.1
    · exact h.2 d hd

theorem readName_append {name : Text} {c : Char} (rest : Text) (h : plainName name = true)
    (hc : nameChar c = false) : readName (name ++ c :: rest) = some (name, c :: rest) := by
  obtain ⟨d, ds, rfl, hd, hall⟩ := plainName_cases h
  have htake : (d :: ds ++ c :: rest).takeWhile nameChar = d :: ds := by
    rw [List.takeWhile_append_of_pos hall, List.takeWhile_cons_of_neg (by simp [hc]),
      List.append_nil]
  have hdrop : (d :: ds ++ c :: rest).dropWhile nameChar = c :: rest := by
    rw [List.dropWhile_append_of_pos hall, List.dropWhile_cons_of_neg (by simp [hc])]
  simp only [readName, htake, hdrop, hd, if_true]

theorem plainChar_spec {c : Char} (h : plainChar c = true) :
    c ≠ '"' ∧ c ≠ '<' ∧ c ≠ '&' ∧ xmlChar c = true ∧ (if space c then ' ' else c) = c := by
  simp only [plainChar, Bool.and_eq_true, decide_eq_true_eq] at h
  obtain ⟨⟨⟨⟨⟨hlo, hhi⟩, hquote⟩, hand⟩, hlt⟩, -⟩ := h
  refine ⟨hquote, hlt, hand, ?_, ?_⟩
  · have hle : c.toNat ≤ 0xD7FF := by omega
    simp [xmlChar, hlo, hle]
  · split
    · next hspace =>
      simp only [space, Bool.or_eq_true, decide_eq_true_eq] at hspace
      rcases hspace with ((rfl | rfl) | rfl) | rfl
      · rfl
      all_goals exact absurd hlo (by decide)
    · rfl

theorem unescape_of_plain {value : Text} (h : ∀ c ∈ value, c ≠ '&') :
    unescape value = some value := by
  induction value with
  | nil => rfl
  | cons c cs ih =>
    have hcs := ih fun d hd => h d (List.mem_cons_of_mem _ hd)
    rw [unescape] at hcs ⊢
    rw [unescapeFrom, if_neg (h c List.mem_cons_self), hcs, Option.map_some]

theorem readValue_append {value : Text} {rest : Text} (h : value.all plainChar = true) :
    readValue ('=' :: '"' :: (value ++ '"' :: rest)) = some (value, rest) := by
  have hplain := fun c hc => plainChar_spec (List.all_eq_true.mp h c hc)
  have hquote : ∀ c ∈ value, decide (c ≠ '"') = true := fun c hc => by simpa using (hplain c hc).1
  have htake : (value ++ '"' :: rest).takeWhile (· ≠ '"') = value := by
    rw [List.takeWhile_append_of_pos hquote, List.takeWhile_cons_of_neg (by simp), List.append_nil]
  have hdrop : (value ++ '"' :: rest).dropWhile (· ≠ '"') = '"' :: rest := by
    rw [List.dropWhile_append_of_pos hquote, List.dropWhile_cons_of_neg (by simp)]
  have hmap : value.map (fun c => if space c then ' ' else c) = value :=
    (List.map_congr_left fun c hc => (hplain c hc).2.2.2.2).trans (List.map_id' value)
  have hlt : '<' ∉ value := fun hmem => (hplain _ hmem).2.1 rfl
  have hvalue := unescape_of_plain fun c hc => (hplain c hc).2.2.1
  have hequals : ('=' :: '"' :: (value ++ '"' :: rest)).dropWhile space =
      '=' :: '"' :: (value ++ '"' :: rest) := rfl
  have hopen : ('"' :: (value ++ '"' :: rest)).dropWhile space = '"' :: (value ++ '"' :: rest) :=
    rfl
  simp only [readValue, hequals, hopen, htake, hdrop, hmap, hvalue, hlt, true_or, if_true,
    if_false, Option.map_some]

theorem not_closes_of_nameStart {c : Char} (h : nameStart c = true) :
    ¬(c = '>' ∨ c = '/' ∨ c = '?') := by
  rintro (rfl | rfl | rfl) <;> revert h <;> decide

theorem plainAttributes_cons (name value : Text) (attributes : Attributes) :
    plainAttributes ((name, value) :: attributes) =
      (plainName name && value.all plainChar && !decide (name ∈ attributes.map Prod.fst) &&
        plainAttributes attributes) := by
  simp only [plainAttributes, List.all_cons, List.map_cons, List.nodup_cons, Bool.decide_and,
    decide_not]
  ac_rfl

theorem readAttributes_write {attributes : Attributes} {rest tail : Text} {c : Char} {fuel : Nat}
    (h : plainAttributes attributes = true) (hrest : rest.dropWhile space = c :: tail)
    (hc : c = '>' ∨ c = '/' ∨ c = '?') (hfuel : attributes.length < fuel) :
    readAttributes fuel (writeAttributes attributes ++ rest) = some (attributes, c :: tail) := by
  induction attributes generalizing fuel with
  | nil =>
    obtain ⟨fuel, rfl⟩ := Nat.exists_eq_succ_of_ne_zero (Nat.ne_of_gt hfuel)
    have hwritten : writeAttributes [] ++ rest = rest := rfl
    simp only [hwritten, readAttributes, hrest, hc, if_true]
  | cons head attributes ih =>
    obtain ⟨name, value⟩ := head
    obtain ⟨fuel, rfl⟩ := Nat.exists_eq_succ_of_ne_zero (Nat.ne_of_gt (Nat.zero_lt_of_lt hfuel))
    rw [plainAttributes_cons] at h
    simp only [Bool.and_eq_true, Bool.not_eq_true', decide_eq_false_iff_not] at h
    obtain ⟨⟨⟨hname, hvalue⟩, hfresh⟩, hattributes⟩ := h
    have hwritten : writeAttributes ((name, value) :: attributes) ++ rest =
        ' ' :: (name ++ '=' :: '"' :: (value ++ '"' :: (writeAttributes attributes ++ rest))) := by
      simp [writeAttributes]
    obtain ⟨d, ds, hd, hstart, -⟩ := plainName_cases hname
    have hdrop : (writeAttributes ((name, value) :: attributes) ++ rest).dropWhile space =
        name ++ '=' :: '"' :: (value ++ '"' :: (writeAttributes attributes ++ rest)) := by
      rw [hwritten, hd, List.dropWhile_cons_of_pos (by decide), List.cons_append,
        List.dropWhile_cons_of_neg (by simp [space_of_nameChar (nameChar_of_nameStart hstart)])]
    have hshorter : name ++ '=' :: '"' :: (value ++ '"' :: (writeAttributes attributes ++ rest)) ≠
        writeAttributes ((name, value) :: attributes) ++ rest := by
      rw [hwritten]
      exact List.ne_cons_self
    have hrec := ih hattributes (Nat.lt_of_succ_lt_succ hfuel)
    have hread := readName_append ('"' :: (value ++ '"' :: (writeAttributes attributes ++ rest)))
      hname (by decide : nameChar '=' = false)
    rw [readAttributes, hdrop]
    simp only [hshorter, hread, Option.bind_eq_bind, Option.bind_some, readValue_append hvalue,
      hrec, List.contains_iff_mem, hfresh, if_false]
    subst hd
    simp only [List.cons_append, not_closes_of_nameStart hstart, if_false]
    rfl

theorem readEndTag_write {name : Text} {rest : Text} (h : plainName name = true) :
    readEndTag name ('<' :: '/' :: (name ++ '>' :: rest)) = some rest := by
  have hread := readName_append rest h (by decide : nameChar '>' = false)
  have hclose : ('>' :: rest).dropWhile space = '>' :: rest := rfl
  simp only [readEndTag, hread, Option.bind_eq_bind, Option.bind_some, ne_eq, not_true, if_false,
    hclose]
  rfl

/-! ## Character data -/

theorem unescape_escape (chars : Text) : unescape (escape chars) = some chars := by
  induction chars with
  | nil => rfl
  | cons c cs ih =>
    have hcons : escape (c :: cs) = escapeChar c ++ escape cs := rfl
    have hchar : unescape (escapeChar c ++ escape cs) = (unescape (escape cs)).map (c :: ·) := by
      unfold escapeChar
      split
      · next hc => subst hc; rfl
      split
      · next hc => subst hc; rfl
      split
      · next hc => subst hc; rfl
      · next hand _ _ => simp [unescape, unescapeFrom, hand]
    rw [hcons, hchar, ih, Option.map_some]

theorem mem_escape {chars : Text} {d : Char} (h : d ∈ escape chars) : d ≠ '<' ∧ d ≠ '>' := by
  obtain ⟨c, -, hd⟩ := List.mem_flatMap.mp h
  unfold escapeChar at hd
  split at hd
  · exact (by simp : ∀ d ∈ "&amp;".toList, d ≠ '<' ∧ d ≠ '>') d hd
  split at hd
  · exact (by simp : ∀ d ∈ "&lt;".toList, d ≠ '<' ∧ d ≠ '>') d hd
  split at hd
  · exact (by simp : ∀ d ∈ "&gt;".toList, d ≠ '<' ∧ d ≠ '>') d hd
  · next hlt hgt =>
    rw [List.mem_singleton.mp hd]
    exact ⟨hlt, hgt⟩

theorem escape_ne_nil {chars : Text} (h : chars ≠ []) :
    ∃ c cs, escape chars = c :: cs ∧ c ≠ '<' := by
  cases hescape : escape chars with
  | nil =>
    have hnone := unescape_escape chars
    rw [hescape] at hnone
    exact absurd (Option.some.inj hnone).symm h
  | cons c cs => exact ⟨c, cs, rfl, (mem_escape (by rw [hescape]; exact List.mem_cons_self)).1⟩

/-- The escaped text never closes a section. -/
theorem not_infix_escape (chars : Text) : ¬"]]>".toList <:+: escape chars := by
  intro h
  have hmem : '>' ∈ escape chars := h.subset (by decide)
  exact (mem_escape hmem).2 rfl

theorem all_xmlChar_escape (chars : Text) :
    (escape chars).all xmlChar = chars.all xmlChar := by
  induction chars with
  | nil => rfl
  | cons c cs ih =>
    have hchar : (escapeChar c).all xmlChar = xmlChar c := by
      unfold escapeChar
      split
      · next hc => subst hc; decide
      split
      · next hc => subst hc; decide
      split
      · next hc => subst hc; decide
      · simp
    have hcons : escape (c :: cs) = escapeChar c ++ escape cs := rfl
    rw [hcons, List.all_append, hchar, ih, List.all_cons]

/-! ## Line ends -/

theorem lineEnds_cons {c : Char} (h : c ≠ '\r') (cs : Text) :
    lineEnds (c :: cs) = c :: lineEnds cs := by
  simp [lineEnds, lineEndsFrom, h]

theorem lineEnds_append_of_not_mem {a : Text} (h : '\r' ∉ a) (b : Text) :
    lineEnds (a ++ b) = a ++ lineEnds b := by
  induction a with
  | nil => rfl
  | cons c cs ih =>
    rw [List.mem_cons, not_or] at h
    rw [List.cons_append, lineEnds_cons (Ne.symm h.1), ih h.2, List.cons_append]

theorem lineEnds_of_not_mem {a : Text} (h : '\r' ∉ a) : lineEnds a = a := by
  have happend := lineEnds_append_of_not_mem h []
  rwa [List.append_nil, show lineEnds [] = [] from rfl, List.append_nil] at happend

theorem lineEndsFrom_of_head {b : Text} (h : b.head? ≠ some '\n') (pair : Bool) :
    lineEndsFrom pair b = lineEnds b := by
  cases b with
  | nil => rfl
  | cons c cs =>
    have hc : c ≠ '\n' := fun heq => h (congrArg some heq)
    simp [lineEnds, lineEndsFrom, hc]

/-- The line ends of two parts are normalised apart unless they may meet in a pair. -/
theorem lineEndsFrom_append (pair : Bool) (a : Text) {b : Text} (h : b.head? ≠ some '\n') :
    lineEndsFrom pair (a ++ b) = lineEndsFrom pair a ++ lineEnds b := by
  induction a generalizing pair with
  | nil => exact lineEndsFrom_of_head h pair
  | cons c cs ih =>
    simp only [List.cons_append, lineEndsFrom]
    split
    · rw [ih, List.cons_append]
    split
    · exact ih false
    · rw [ih, List.cons_append]

theorem not_mem_lineEndsFrom (pair : Bool) (a : Text) : '\r' ∉ lineEndsFrom pair a := by
  induction a generalizing pair with
  | nil => simp [lineEndsFrom]
  | cons c cs ih =>
    rw [lineEndsFrom]
    split
    · simp [ih true]
    split
    · exact ih false
    · next hc _ => simp [ih false, Ne.symm hc]

/-- A text reads back unchanged exactly when it has no carriage return. -/
theorem lineEnds_eq_self_iff (a : Text) : lineEnds a = a ↔ '\r' ∉ a := by
  constructor
  · intro h
    rw [← h]
    exact not_mem_lineEndsFrom false a
  · exact lineEnds_of_not_mem

theorem all_xmlChar_lineEndsFrom (pair : Bool) (a : Text) :
    (lineEndsFrom pair a).all xmlChar = a.all xmlChar := by
  induction a generalizing pair with
  | nil => rfl
  | cons c cs ih =>
    rw [lineEndsFrom]
    split
    · next hc => subst hc; rw [List.all_cons, List.all_cons, ih]; rfl
    split
    · next hpair => rw [List.all_cons, hpair.2, ih]; rfl
    · rw [List.all_cons, List.all_cons, ih]

theorem lineEnds_eq_nil_iff (a : Text) : lineEnds a = [] ↔ a = [] := by
  cases a with
  | nil => simp [lineEnds, lineEndsFrom]
  | cons c cs =>
    simp only [lineEnds, lineEndsFrom, Bool.false_eq_true, false_and, if_false]
    split <;> simp

/-- Escaping leaves the line ends alone. -/
theorem lineEndsFrom_escape (pair : Bool) (chars : Text) :
    lineEndsFrom pair (escape chars) = escape (lineEndsFrom pair chars) := by
  induction chars generalizing pair with
  | nil => rfl
  | cons c cs ih =>
    have hcons : escape (c :: cs) = escapeChar c ++ escape cs := rfl
    by_cases hspecial : c = '&' ∨ c = '<' ∨ c = '>'
    · have hchar : lineEndsFrom pair (c :: cs) = c :: lineEndsFrom false cs := by
        rcases hspecial with rfl | rfl | rfl <;> simp [lineEndsFrom]
      have hwritten : lineEndsFrom pair (escapeChar c ++ escape cs) =
          escapeChar c ++ lineEndsFrom false (escape cs) := by
        rcases hspecial with rfl | rfl | rfl <;> simp [escapeChar, lineEndsFrom]
      rw [hcons, hwritten, hchar, ih false]
      rfl
    · rw [not_or, not_or] at hspecial
      have hself : escapeChar c = [c] := by simp [escapeChar, hspecial]
      rw [hcons, hself, List.singleton_append, lineEndsFrom, lineEndsFrom]
      split
      · rw [ih true]; rfl
      split
      · exact ih false
      · rw [ih false]
        simp [escape, hself]

/-! ## Tags -/

theorem nameChar_spec {c : Char} (h : nameChar c = true) : c ≠ '\r' ∧ xmlChar c = true := by
  have hspace := space_of_nameChar h
  refine ⟨fun hc => by rw [hc] at hspace; exact absurd hspace (by decide), ?_⟩
  simp only [nameChar, nameStart, Bool.or_eq_true, Bool.and_eq_true, decide_eq_true_eq] at h
  have hrange : 0x20 ≤ c.toNat ∧ c.toNat ≤ 0xD7FF := by
    have hbounds : ∀ a b : Char, a ≤ c ∧ c ≤ b → a.toNat ≤ c.toNat ∧ c.toNat ≤ b.toNat :=
      fun a b hc => ⟨UInt32.le_iff_toNat_le.mp hc.1, UInt32.le_iff_toNat_le.mp hc.2⟩
    rcases h with (((((h | h) | rfl) | rfl) | h) | rfl) | rfl
    · have hletter : 97 ≤ c.toNat ∧ c.toNat ≤ 122 := hbounds 'a' 'z' h
      omega
    · have hletter : 65 ≤ c.toNat ∧ c.toNat ≤ 90 := hbounds 'A' 'Z' h
      omega
    · decide
    · decide
    · have hdigit : 48 ≤ c.toNat ∧ c.toNat ≤ 57 := hbounds '0' '9' h
      omega
    · decide
    · decide
  simp only [xmlChar, hrange, decide_true, Bool.and_true, Bool.or_true, Bool.true_or]

/-- A tag is written in characters that need no normalising. -/
def steady (cs : Text) : Prop := ∀ c ∈ cs, c ≠ '\r' ∧ xmlChar c = true

theorem steady_append {a b : Text} (ha : steady a) (hb : steady b) : steady (a ++ b) := by
  intro c hc
  rcases List.mem_append.mp hc with hc | hc
  · exact ha c hc
  · exact hb c hc

theorem steady_cons {c : Char} {cs : Text} (hc : c ≠ '\r' ∧ xmlChar c = true) (h : steady cs) :
    steady (c :: cs) :=
  List.forall_mem_cons.mpr ⟨hc, h⟩

theorem steady_name {name : Text} (h : plainName name = true) : steady name := by
  obtain ⟨-, -, -, -, hall⟩ := plainName_cases h
  exact fun c hc => nameChar_spec (hall c hc)

theorem steady_attributes {attributes : Attributes} (h : plainAttributes attributes = true) :
    steady (writeAttributes attributes) := by
  simp only [plainAttributes, Bool.and_eq_true, List.all_eq_true] at h
  intro c hc
  obtain ⟨⟨name, value⟩, hmem, hwritten⟩ := List.mem_flatMap.mp hc
  have hparts := h.1 _ hmem
  have hvalue : steady value := fun d hd => by
    have hplain := plainChar_spec (hparts.2 d hd)
    refine ⟨fun hr => ?_, hplain.2.2.2.1⟩
    subst hr
    exact absurd hplain.2.2.2.2 (by decide)
  have hend : steady ['"'] := steady_cons (by decide) (by simp [steady])
  have hsteady : steady (' ' :: name ++ '=' :: '"' :: value ++ ['"']) :=
    steady_append (steady_append (steady_cons (by decide) (steady_name hparts.1))
      (steady_cons (by decide) (steady_cons (by decide) hvalue))) hend
  exact hsteady c hwritten

theorem lineEnds_steady {a : Text} (h : steady a) (b : Text) :
    lineEnds (a ++ b) = a ++ lineEnds b :=
  lineEnds_append_of_not_mem (fun hmem => (h _ hmem).1 rfl) b

theorem all_xmlChar_steady {a : Text} (h : steady a) : a.all xmlChar = true :=
  List.all_eq_true.mpr fun c hc => (h c hc).2

def openTag (name : Text) (attributes : Attributes) : Text :=
  '<' :: (name ++ writeAttributes attributes)

def endTag (name : Text) : Text := '<' :: '/' :: (name ++ ['>'])

theorem write_element_nil (name : Text) (attributes : Attributes) :
    (Node.element name attributes []).write = openTag name attributes ++ " />".toList := by
  simp [Node.write, openTag]

theorem write_element_cons (name : Text) (attributes : Attributes) (child : Node)
    (children : List Node) :
    (Node.element name attributes (child :: children)).write =
      openTag name attributes ++ '>' :: (writeNodes (child :: children) ++ endTag name) := by
  simp [Node.write, openTag, endTag]

theorem steady_openTag {name : Text} {attributes : Attributes} (hname : plainName name = true)
    (hattributes : plainAttributes attributes = true) : steady (openTag name attributes) :=
  steady_cons (by decide) (steady_append (steady_name hname) (steady_attributes hattributes))

theorem steady_endTag {name : Text} (h : plainName name = true) : steady (endTag name) :=
  steady_cons (by decide) (steady_cons (by decide) (steady_append (steady_name h)
    (steady_cons (by decide) (by simp [steady]))))

/-! ## What a processor sees of the text -/

theorem head_write {node : Node} (h : node.isText = false) (b : Text) :
    ∃ cs, node.write ++ b = '<' :: cs := by
  match node, h with
  | .element name attributes [], _ => exact ⟨_, by rw [write_element_nil, openTag]; rfl⟩
  | .element name attributes (child :: children), _ =>
    exact ⟨_, by rw [write_element_cons, openTag]; rfl⟩

/-- After a text comes a tag or what follows the content. -/
theorem head_writeNodes {nodes : List Node} (h : startsWithText nodes = false) (b : Text) :
    writeNodes nodes ++ b = b ∨ ∃ cs, writeNodes nodes ++ b = '<' :: cs := by
  cases nodes with
  | nil => exact .inl rfl
  | cons node nodes =>
    have hnode : node.isText = false := by simpa [startsWithText] using h
    obtain ⟨cs, hcs⟩ := head_write hnode (writeNodes nodes ++ b)
    exact .inr ⟨cs, by rw [writeNodes, List.append_assoc, hcs]⟩

mutual

theorem lineEnds_write : ∀ (node : Node) (b : Text), node.plain = true →
    (node.isText = true → b.head? ≠ some '\n') →
    lineEnds (node.write ++ b) = (node.mapText lineEnds).write ++ lineEnds b
  | .text chars, b, _, hb => by
    rw [Node.write, Node.mapText, Node.write, lineEnds, lineEndsFrom_append _ _ (hb rfl),
      lineEndsFrom_escape]
    rfl
  | .element name attributes [], b, h, _ => by
    simp only [Node.plain, Bool.and_eq_true] at h
    have hsteady : steady (openTag name attributes ++ " />".toList) :=
      steady_append (steady_openTag h.1.1 h.1.2) (by simp [steady, xmlChar])
    rw [Node.mapText, mapTexts, write_element_nil, lineEnds_steady hsteady]
  | .element name attributes (child :: children), b, h, _ => by
    simp only [Node.plain, Bool.and_eq_true] at h
    have hopen : steady (openTag name attributes ++ ['>']) :=
      steady_append (steady_openTag h.1.1 h.1.2) (by simp [steady, xmlChar])
    have hchildren := lineEnds_writeNodes (child :: children) (endTag name ++ b) h.2
      (by simp [endTag])
    calc lineEnds ((Node.element name attributes (child :: children)).write ++ b)
        = lineEnds ((openTag name attributes ++ ['>']) ++
            (writeNodes (child :: children) ++ (endTag name ++ b))) := by
          rw [write_element_cons]
          simp
      _ = (openTag name attributes ++ ['>']) ++
            (writeNodes (mapTexts lineEnds (child :: children)) ++
              (endTag name ++ lineEnds b)) := by
          rw [lineEnds_steady hopen, hchildren, lineEnds_steady (steady_endTag h.1.1)]
      _ = ((Node.element name attributes (child :: children)).mapText lineEnds).write ++
            lineEnds b := by
          rw [Node.mapText, mapTexts, write_element_cons]
          simp

theorem lineEnds_writeNodes : ∀ (nodes : List Node) (b : Text), plainNodes nodes = true →
    b.head? ≠ some '\n' →
    lineEnds (writeNodes nodes ++ b) = writeNodes (mapTexts lineEnds nodes) ++ lineEnds b
  | [], _, _, _ => rfl
  | node :: nodes, b, h, hb => by
    simp only [plainNodes, Bool.and_eq_true, Bool.not_eq_true', Bool.and_eq_false_iff] at h
    have hnext : node.isText = true → (writeNodes nodes ++ b).head? ≠ some '\n' := by
      intro htext
      have hstart := h.1.2.resolve_left (by simp [htext])
      rcases head_writeNodes hstart b with heq | ⟨cs, heq⟩
      · rwa [heq]
      · simp [heq]
    rw [writeNodes, mapTexts, writeNodes, List.append_assoc, lineEnds_write node _ h.1.1 hnext,
      lineEnds_writeNodes nodes b h.2 hb, List.append_assoc]

end

mutual

/-- The only characters of a written element that may be refused are those of its texts. -/
theorem all_xmlChar_write : ∀ node : Node, node.plain = true →
    node.write.all xmlChar = node.legal
  | .text chars, _ => by simp [Node.write, Node.legal, Node.texts, all_xmlChar_escape]
  | .element name attributes [], h => by
    simp only [Node.plain, Bool.and_eq_true] at h
    rw [write_element_nil, List.all_append, all_xmlChar_steady (steady_openTag h.1.1 h.1.2)]
    rfl
  | .element name attributes (child :: children), h => by
    simp only [Node.plain, Bool.and_eq_true] at h
    rw [write_element_cons, List.all_append, List.all_cons, List.all_append,
      all_xmlChar_steady (steady_openTag h.1.1 h.1.2), all_xmlChar_steady (steady_endTag h.1.1),
      all_xmlChar_writeNodes _ h.2, Bool.and_true]
    rfl

theorem all_xmlChar_writeNodes : ∀ nodes : List Node, plainNodes nodes = true →
    (writeNodes nodes).all xmlChar = (textsOf nodes).all fun chars => chars.all xmlChar
  | [], _ => rfl
  | node :: nodes, h => by
    simp only [plainNodes, Bool.and_eq_true] at h
    rw [writeNodes, textsOf, List.all_append, List.all_append, all_xmlChar_write node h.1.1,
      all_xmlChar_writeNodes nodes h.2]
    rfl

end

mutual

theorem texts_mapText (f : Text → Text) : ∀ node : Node, (node.mapText f).texts = node.texts.map f
  | .text _ => rfl
  | .element _ _ children => textsOf_mapTexts f children

theorem textsOf_mapTexts (f : Text → Text) :
    ∀ nodes : List Node, textsOf (mapTexts f nodes) = (textsOf nodes).map f
  | [] => rfl
  | node :: nodes => by
    rw [mapTexts, textsOf, textsOf, texts_mapText f node, textsOf_mapTexts f nodes,
      List.map_append]

end

theorem legal_mapText_lineEnds (node : Node) : (node.mapText lineEnds).legal = node.legal := by
  rw [Node.legal, Node.legal, texts_mapText, List.all_map]
  exact congrArg (List.all node.texts) (funext fun chars => all_xmlChar_lineEndsFrom false chars)

theorem isText_mapText (f : Text → Text) (node : Node) : (node.mapText f).isText = node.isText := by
  cases node <;> rfl

theorem startsWithText_mapTexts (f : Text → Text) (nodes : List Node) :
    startsWithText (mapTexts f nodes) = startsWithText nodes := by
  cases nodes with
  | nil => rfl
  | cons node nodes => exact isText_mapText f node

mutual

theorem plain_mapText {f : Text → Text} (hf : ∀ chars, f chars = [] ↔ chars = []) :
    ∀ node : Node, (node.mapText f).plain = node.plain
  | .text chars => by simp [Node.mapText, Node.plain, hf chars]
  | .element name attributes children => by
    rw [Node.mapText, Node.plain, Node.plain, plainNodes_mapTexts hf children]

theorem plainNodes_mapTexts {f : Text → Text} (hf : ∀ chars, f chars = [] ↔ chars = []) :
    ∀ nodes : List Node, plainNodes (mapTexts f nodes) = plainNodes nodes
  | [] => rfl
  | node :: nodes => by
    rw [mapTexts, plainNodes, plainNodes, plain_mapText hf node, plainNodes_mapTexts hf nodes,
      isText_mapText, startsWithText_mapTexts]

end

theorem mapTexts_eq_map (f : Text → Text) (nodes : List Node) :
    mapTexts f nodes = nodes.map (Node.mapText f) := by
  induction nodes with
  | nil => rfl
  | cons node nodes ih => rw [mapTexts, ih, List.map_cons]

theorem legal_element (name : Text) (attributes : Attributes) (children : List Node) :
    (Node.element name attributes children).legal = children.all Node.legal := by
  rw [Node.legal, Node.texts]
  induction children with
  | nil => rfl
  | cons child children ih => rw [textsOf, List.all_append, ih, List.all_cons, Node.legal]

theorem value_mapText {f : Text → Text} (hf : f [] = []) (node : Node) :
    (node.mapText f).value = f node.value := by
  match node with
  | .text _ => rfl
  | .element _ _ [] => exact hf.symm
  | .element _ _ (.text _ :: _) => rfl
  | .element _ _ (.element _ _ _ :: _) => exact hf.symm

theorem valuesAt_mapText {f : Text → Text} (hf : f [] = []) (path : List Text) (node : Node) :
    valuesAt path (node.mapText f) = (valuesAt path node).map f := by
  induction path generalizing node with
  | nil => rw [valuesAt, valuesAt, value_mapText hf]; rfl
  | cons name path ih =>
    have hchildren : (node.mapText f).childrenNamed name =
        (node.childrenNamed name).map (Node.mapText f) := by
      cases node with
      | text _ => rfl
      | element _ _ children =>
        rw [Node.mapText, Node.childrenNamed, Node.childrenNamed, mapTexts_eq_map, List.filter_map]
        refine congrArg (List.map _) (List.filter_congr fun child _ => ?_)
        cases child <;> rfl
    rw [valuesAt, valuesAt, hchildren, List.flatMap_map, List.map_flatMap]
    exact List.flatMap_congr fun child _ => ih child

/-! ## Content -/

mutual

def Node.size : Node → Nat
  | .text _ => 1
  | .element _ _ children => sizeOfNodes children + 1

def sizeOfNodes : List Node → Nat
  | [] => 0
  | node :: nodes => node.size + sizeOfNodes nodes

end

mutual

theorem size_le_length : ∀ node : Node, node.plain = true → node.size ≤ node.write.length
  | .text chars, h => by
    have hne : chars ≠ [] := by simpa [Node.plain] using h
    obtain ⟨c, cs, hescape, -⟩ := escape_ne_nil hne
    simp [Node.size, Node.write, hescape]
  | .element name attributes [], _ => by
    simp [Node.size, sizeOfNodes, write_element_nil, openTag]
  | .element name attributes (child :: children), h => by
    simp only [Node.plain, Bool.and_eq_true] at h
    have hchildren := sizeOfNodes_le_length _ h.2
    rw [Node.size, write_element_cons, List.length_append, List.length_cons, List.length_append]
    omega

theorem sizeOfNodes_le_length : ∀ nodes : List Node, plainNodes nodes = true →
    sizeOfNodes nodes ≤ (writeNodes nodes).length
  | [], _ => Nat.le_refl 0
  | node :: nodes, h => by
    simp only [plainNodes, Bool.and_eq_true] at h
    have hnode := size_le_length node h.1.1
    have hnodes := sizeOfNodes_le_length nodes h.2
    rw [sizeOfNodes, writeNodes, List.length_append]
    omega

end

/-- What may follow content: nothing, or an end tag. -/
def ended (rest : Text) : Prop := rest = [] ∨ ∃ cs, rest = '<' :: '/' :: cs

theorem readNodes_ended {rest : Text} (h : ended rest) (fuel : Nat) :
    readNodes (fuel + 1) rest = some ([], rest) := by
  rcases h with rfl | ⟨cs, rfl⟩
  · rfl
  · simp [readNodes]

theorem readNodes_text {chars : Text} {rest : Text} {nodes : List Node} {after : Text} {fuel : Nat}
    (hne : chars ≠ []) (hrest : rest = [] ∨ ∃ cs, rest = '<' :: cs)
    (hnodes : readNodes fuel rest = some (nodes, after)) :
    readNodes (fuel + 1) (escape chars ++ rest) = some (.text chars :: nodes, after) := by
  have hraw : ∀ d ∈ escape chars, decide (d ≠ '<') = true :=
    fun d hd => decide_eq_true (mem_escape hd).1
  have htake : (escape chars ++ rest).takeWhile (· ≠ '<') = escape chars := by
    rw [List.takeWhile_append_of_pos hraw]
    rcases hrest with rfl | ⟨cs, rfl⟩ <;> simp
  have hdrop : (escape chars ++ rest).dropWhile (· ≠ '<') = rest := by
    rw [List.dropWhile_append_of_pos hraw]
    rcases hrest with rfl | ⟨cs, rfl⟩ <;> simp
  have hinfix := not_infix_escape chars
  have hread := unescape_escape chars
  obtain ⟨c, cs, hescape, hc⟩ := escape_ne_nil hne
  rw [hescape] at htake hdrop hinfix hread ⊢
  rw [List.cons_append] at htake hdrop ⊢
  simp only [readNodes, hc, ne_eq, not_false_eq_true, if_true, htake, hdrop, hinfix, if_false,
    hread, hnodes, Option.bind_eq_bind, Option.bind_some]
  rfl

theorem length_le_writeAttributes (attributes : Attributes) :
    attributes.length ≤ (writeAttributes attributes).length := by
  induction attributes with
  | nil => exact Nat.le_refl 0
  | cons head attributes ih =>
    simp only [writeAttributes, List.flatMap_cons, List.length_append, List.length_cons] at ih ⊢
    omega

/-- The name and the attributes of a tag. -/
theorem read_openTag {name : Text} {attributes : Attributes} {rest tail : Text} {c : Char}
    (hname : plainName name = true) (hattributes : plainAttributes attributes = true)
    (hrest : rest.dropWhile space = c :: tail) (hc : c = '>' ∨ c = '/' ∨ c = '?') :
    ∃ between, readName (name ++ (writeAttributes attributes ++ rest)) = some (name, between) ∧
      readAttributes (between.length + 1) between = some (attributes, c :: tail) := by
  have hhead : ∃ d ds, writeAttributes attributes ++ rest = d :: ds ∧ nameChar d = false := by
    cases attributes with
    | cons head attributes => exact ⟨' ', _, rfl, by decide⟩
    | nil =>
      have hne : rest ≠ [] := fun h => by simp [h] at hrest
      obtain ⟨d, ds, rfl⟩ := List.exists_cons_of_ne_nil hne
      refine ⟨d, ds, rfl, ?_⟩
      by_contra hd
      have hspace := space_of_nameChar (Bool.not_eq_false _ ▸ hd)
      rw [List.dropWhile_cons_of_neg (by simp [hspace])] at hrest
      rw [(List.cons.inj hrest).1] at hd
      rcases hc with rfl | rfl | rfl <;> exact hd (by decide)
  obtain ⟨d, ds, heq, hd⟩ := hhead
  refine ⟨writeAttributes attributes ++ rest, ?_, ?_⟩
  · rw [heq]
    exact readName_append ds hname hd
  · refine readAttributes_write hattributes hrest hc ?_
    have hlength := length_le_writeAttributes attributes
    rw [List.length_append]
    omega

theorem head_ne_slash {name : Text} (h : plainName name = true) (rest : Text) :
    (name ++ rest).head? ≠ some '/' := by
  obtain ⟨c, cs, rfl, hc, -⟩ := plainName_cases h
  intro hhead
  have heq : c = '/' := by simpa using hhead
  rw [heq] at hc
  exact absurd hc (by decide)

theorem readNodes_element_nil {name : Text} {attributes : Attributes} {rest : Text}
    {nodes : List Node} {after : Text} {fuel : Nat} (hname : plainName name = true)
    (hattributes : plainAttributes attributes = true)
    (hnodes : readNodes fuel rest = some (nodes, after)) :
    readNodes (fuel + 1) ((Node.element name attributes []).write ++ rest) =
      some (.element name attributes [] :: nodes, after) := by
  have hclose : (' ' :: '/' :: '>' :: rest).dropWhile space = '/' :: '>' :: rest := rfl
  obtain ⟨between, hread, hreadAttributes⟩ :=
    read_openTag hname hattributes hclose (.inr (.inl rfl))
  have hwritten : (Node.element name attributes []).write ++ rest =
      '<' :: (name ++ (writeAttributes attributes ++ ' ' :: '/' :: '>' :: rest)) := by
    rw [write_element_nil, openTag]
    simp
  have hstart : (name ++ (writeAttributes attributes ++ ' ' :: '/' :: '>' :: rest)).head? ≠
      some '/' := head_ne_slash hname _
  rw [hwritten]
  simp only [readNodes, ne_eq, not_true, if_false, hstart, hread, hreadAttributes, hnodes,
    Option.bind_eq_bind, Option.bind_some]
  rfl

theorem readNodes_element_cons {name : Text} {attributes : Attributes} {child : Node}
    {children : List Node} {rest : Text} {nodes : List Node} {after : Text} {fuel : Nat}
    (hname : plainName name = true) (hattributes : plainAttributes attributes = true)
    (hchildren : readNodes fuel (writeNodes (child :: children) ++ (endTag name ++ rest)) =
      some (child :: children, endTag name ++ rest))
    (hnodes : readNodes fuel rest = some (nodes, after)) :
    readNodes (fuel + 1) ((Node.element name attributes (child :: children)).write ++ rest) =
      some (.element name attributes (child :: children) :: nodes, after) := by
  have hclose : ('>' :: (writeNodes (child :: children) ++ (endTag name ++ rest))).dropWhile space =
      '>' :: (writeNodes (child :: children) ++ (endTag name ++ rest)) := rfl
  obtain ⟨between, hread, hreadAttributes⟩ := read_openTag hname hattributes hclose (.inl rfl)
  have hwritten : (Node.element name attributes (child :: children)).write ++ rest =
      '<' :: (name ++ (writeAttributes attributes ++
        '>' :: (writeNodes (child :: children) ++ (endTag name ++ rest)))) := by
    rw [write_element_cons, openTag]
    simp
  have hend : endTag name ++ rest = '<' :: '/' :: (name ++ '>' :: rest) := by simp [endTag]
  have hstart := head_ne_slash hname (writeAttributes attributes ++
    '>' :: (writeNodes (child :: children) ++ (endTag name ++ rest)))
  rw [hwritten]
  simp only [readNodes, ne_eq, not_true, if_false, hstart, hread, hreadAttributes, hchildren,
    Option.bind_eq_bind, Option.bind_some]
  rw [hend, readEndTag_write hname]
  simp only [Option.bind_some, hnodes]
  rfl

/-- Written content is read back, up to the end tag after it. -/
theorem readNodes_write {fuel : Nat} {nodes : List Node} {rest : Text}
    (h : plainNodes nodes = true) (hrest : ended rest) (hfuel : sizeOfNodes nodes < fuel) :
    readNodes fuel (writeNodes nodes ++ rest) = some (nodes, rest) := by
  induction fuel generalizing nodes rest with
  | zero => omega
  | succ fuel ih =>
    match nodes, h, hfuel with
    | [], _, _ => exact readNodes_ended hrest fuel
    | .text chars :: nodes, h, hfuel =>
      simp only [plainNodes, Node.plain, Node.isText, Bool.and_eq_true, decide_eq_true_eq,
        Bool.true_and, Bool.not_eq_true'] at h
      have hnodes := ih h.2 hrest (by simp only [sizeOfNodes, Node.size] at hfuel; omega)
      have hnext : writeNodes nodes ++ rest = [] ∨ ∃ cs, writeNodes nodes ++ rest = '<' :: cs := by
        rcases head_writeNodes h.1.2 rest with heq | htag
        · rw [heq]
          exact hrest.imp_right fun ⟨cs, hcs⟩ => ⟨_, hcs⟩
        · exact .inr htag
      rw [writeNodes, Node.write, List.append_assoc]
      exact readNodes_text h.1.1 hnext hnodes
    | .element name attributes [] :: nodes, h, hfuel =>
      simp only [plainNodes, Node.plain, Bool.and_eq_true] at h
      have hnodes := ih h.2 hrest (by simp only [sizeOfNodes, Node.size] at hfuel; omega)
      rw [writeNodes, List.append_assoc]
      exact readNodes_element_nil h.1.1.1.1 h.1.1.1.2 hnodes
    | .element name attributes (child :: children) :: nodes, h, hfuel =>
      rw [plainNodes, Node.plain] at h
      simp only [Bool.and_eq_true] at h
      rw [sizeOfNodes, Node.size] at hfuel
      have hend : ended (endTag name ++ (writeNodes nodes ++ rest)) := .inr ⟨_, rfl⟩
      have hchildren := ih h.1.1.2 hend (by omega)
      have hnodes := ih h.2 hrest (by omega)
      rw [writeNodes, List.append_assoc]
      exact readNodes_element_cons h.1.1.1.1 h.1.1.1.2 hchildren hnodes

/-! ## Documents -/

theorem readDeclaration_declaration (rest : Text) :
    readDeclaration (declaration ++ rest) = some ('\n' :: rest) := by
  rfl

theorem lineEnds_writeDocument {root : Node} (h : root.plain = true) (hroot : root.isText = false) :
    lineEnds (writeDocument root) = writeDocument (root.mapText lineEnds) := by
  have hwrite := lineEnds_write root [] h (by simp [hroot])
  rw [List.append_nil, show lineEnds [] = [] from rfl, List.append_nil] at hwrite
  rw [writeDocument, lineEnds_append_of_not_mem (by decide), hwrite, writeDocument]

theorem all_xmlChar_writeDocument {root : Node} (h : root.plain = true) :
    (writeDocument root).all xmlChar = root.legal := by
  rw [writeDocument, List.all_append, all_xmlChar_write root h]
  simp only [show declaration.all xmlChar = true by decide, Bool.true_and]

/-- A processor reads a written document back with its line ends normalised, or refuses it for
one of the characters in its texts. -/
theorem readDocument_writeDocument {root : Node} (h : root.plain = true)
    (hroot : root.isText = false) :
    readDocument (writeDocument root) =
      if root.legal then some (root.mapText lineEnds) else none := by
  have hplain : (root.mapText lineEnds).plain = true :=
    (plain_mapText lineEnds_eq_nil_iff root).trans h
  have hroot' : (root.mapText lineEnds).isText = false := (isText_mapText _ root).trans hroot
  have hall : (writeDocument (root.mapText lineEnds)).all xmlChar = root.legal :=
    (all_xmlChar_writeDocument hplain).trans (legal_mapText_lineEnds root)
  rw [readDocument, lineEnds_writeDocument h hroot]
  generalize root.mapText lineEnds = node at hplain hroot' hall
  have hany : ((writeDocument node).any fun c => !xmlChar c) = !root.legal := by
    rw [← hall, List.all_eq_not_any_not, Bool.not_not]
  match node, hroot' with
  | .element name attributes children, _ =>
    have hnode : (Node.element name attributes children).isText = false := rfl
    obtain ⟨cs, hcs⟩ := head_write hnode []
    rw [List.append_nil] at hcs
    have hdrop : ('\n' :: (Node.element name attributes children).write).dropWhile space =
        (Node.element name attributes children).write := by
      rw [hcs]
      rfl
    have hsize := size_le_length _ hplain
    have hnodes : plainNodes [.element name attributes children] = true := by
      simp [plainNodes, hplain, Node.isText]
    have hread := readNodes_write hnodes (.inl rfl : ended [])
      (by simp only [sizeOfNodes, List.length_cons]; omega :
        sizeOfNodes [.element name attributes children] <
          ('\n' :: (Node.element name attributes children).write).length + 1)
    rw [writeNodes, writeNodes, List.append_nil, List.append_nil] at hread
    rw [hany, writeDocument]
    simp only [readDeclaration_declaration, hdrop, hread, Option.bind_eq_bind, Option.bind_some]
    cases root.legal <;> rfl

end InfraOps.Xml
