import AluBench.Json
import AluBench.Proofs.Text.Digits

/-!
# One document, one text

The names and keys of a plain document are made of letters. So the blanks and line feeds in its text
all come from the layout, and both layouts say the same:

    solid (doc.chars layout depth) = doc.chars .compact depth'                  (solid_chars)

The first character of a document tells what kind of document it is, and every part of it ends
where a bracket, a comma or a quote stands. So no two plain documents share a text, even if more
text follows:

    doc.chars .compact depth ++ us = doc'.chars .compact depth ++ vs →
      doc = doc' ∧ us = vs                                                (eq_of_chars_append)
-/

namespace AluBench.Json

open Text

/-- A text of letters only. -/
def Lettered (text : String) : Prop := ∀ c ∈ text.toList, c.isAlpha = true

instance (text : String) : Decidable (Lettered text) :=
  decidable_of_iff (text.toList.all Char.isAlpha = true) List.all_eq_true

mutual

/-- All names and keys of the document are made of letters. -/
def Plain : Json → Prop
  | number _ => True
  | bool _ => True
  | name text => Lettered text
  | list items => PlainItems items
  | record fields => PlainFields fields

def PlainItems : List Json → Prop
  | [] => True
  | item :: items => item.Plain ∧ PlainItems items

def PlainFields : List (String × Json) → Prop
  | [] => True
  | (key, value) :: fields => Lettered key ∧ value.Plain ∧ PlainFields fields

end

theorem plainItems_iff {items : List Json} : PlainItems items ↔ ∀ item ∈ items, item.Plain := by
  induction items with
  | nil => simp [PlainItems]
  | cons item items ih => rw [PlainItems, ih, List.forall_mem_cons]

/-! ## Without blanks -/

/-- What is left of a text without its blanks and line feeds. -/
def solid (cs : List Char) : List Char := cs.filter fun c => c != ' ' && c != '\n'

/-- The layout adds blanks and line feeds to the compact one, and nothing else. -/
structure Layout.Spaced (layout : Layout) : Prop where
  lineStart : ∀ depth, solid (layout.lineStart depth) = []
  colon : solid layout.colon = [':']

theorem Layout.spaced_pretty : Layout.pretty.Spaced := by
  refine ⟨?_, rfl⟩
  intro depth
  show solid ('\n' :: List.replicate (2 * depth) ' ') = []
  unfold solid
  rw [List.filter_eq_nil_iff]
  intro c hc
  rcases List.mem_cons.1 hc with rfl | hc
  · decide
  · rw [List.eq_of_mem_replicate hc]
    decide

theorem solid_append (xs ys : List Char) : solid (xs ++ ys) = solid xs ++ solid ys :=
  List.filter_append ..

theorem solid_cons {c : Char} (h : (c != ' ' && c != '\n') = true) (cs : List Char) :
    solid (c :: cs) = c :: solid cs :=
  List.filter_cons_of_pos h

/-- A text in a class of characters that holds neither is left as it stands. -/
theorem solid_of_all {inside : Char → Bool} (hblank : inside ' ' = false)
    (hfeed : inside '\n' = false) {cs : List Char} (h : ∀ c ∈ cs, inside c = true) :
    solid cs = cs := by
  apply List.filter_eq_self.2
  intro c hc
  have hc' : inside c = true := h c hc
  rw [Bool.and_eq_true, bne_iff_ne, bne_iff_ne]
  constructor
  · rintro rfl
    exact absurd hc' (by simp [hblank])
  · rintro rfl
    exact absurd hc' (by simp [hfeed])

theorem solid_toDigits (n : Nat) : solid (Nat.toDigits 10 n) = Nat.toDigits 10 n :=
  solid_of_all (by decide) (by decide) fun _ => isDigit_of_mem_toDigits_ten

theorem solid_quoted {text : String} (h : Lettered text) : solid (quoted text) = quoted text := by
  have htext : solid text.toList = text.toList := solid_of_all (by decide) (by decide) h
  unfold quoted
  rw [List.cons_append, solid_cons (by decide), solid_append, htext]
  rfl

section

variable {layout : Layout} (hlayout : layout.Spaced)

include hlayout

mutual

theorem solid_chars : ∀ (doc : Json) (depth depth' : Nat), doc.Plain →
    solid (doc.chars layout depth) = doc.chars .compact depth'
  | number n, _, _, _ => by simp only [chars, solid_toDigits]
  | bool b, _, _, _ => by cases b <;> rfl
  | name text, _, _, h => by simp only [chars, solid_quoted h]
  | list [], _, _, _ => rfl
  | list (item :: items), depth, depth', h => by
    have hitem := solid_chars item (depth + 1) (depth' + 1) h.1
    have hitems := solid_itemChars items (depth + 1) (depth' + 1) h.2
    simp (disch := decide) only [chars, List.cons_append, solid_cons, solid_append,
      hlayout.lineStart, hitem, hitems]
    rfl
  | record [], _, _, _ => rfl
  | record ((key, value) :: fields), depth, depth', h => by
    have hvalue := solid_chars value (depth + 1) (depth' + 1) h.2.1
    have hfields := solid_fieldChars fields (depth + 1) (depth' + 1) h.2.2
    simp (disch := decide) only [chars, List.cons_append, solid_cons, solid_append,
      hlayout.lineStart, hlayout.colon, solid_quoted h.1, hvalue, hfields]
    rfl

theorem solid_itemChars : ∀ (items : List Json) (depth depth' : Nat), PlainItems items →
    solid (itemChars layout depth items) = itemChars .compact depth' items
  | [], _, _, _ => rfl
  | item :: items, depth, depth', h => by
    have hitem := solid_chars item depth depth' h.1
    have hitems := solid_itemChars items depth depth' h.2
    simp (disch := decide) only [itemChars, List.cons_append, solid_cons, solid_append,
      hlayout.lineStart, hitem, hitems]
    rfl

theorem solid_fieldChars : ∀ (fields : List (String × Json)) (depth depth' : Nat),
    PlainFields fields → solid (fieldChars layout depth fields) = fieldChars .compact depth' fields
  | [], _, _, _ => rfl
  | (key, value) :: fields, depth, depth', h => by
    have hvalue := solid_chars value depth depth' h.2.1
    have hfields := solid_fieldChars fields depth depth' h.2.2
    simp (disch := decide) only [fieldChars, List.cons_append, solid_cons, solid_append,
      hlayout.lineStart, hlayout.colon, solid_quoted h.1, hvalue, hfields]
    rfl

end

end

/-! ## What a text starts with -/

/-- The kinds of documents, which differ in what they start with. -/
inductive Kind where
  | number | bool | name | list | record
  deriving DecidableEq

def kind : Json → Kind
  | number _ => .number
  | bool _ => .bool
  | name _ => .name
  | list _ => .list
  | record _ => .record

/-- The kind of document that a character starts, if any. -/
def Kind.ofStart? (c : Char) : Option Kind :=
  if c.isDigit then some number
  else
    match c with
    | 't' => some bool
    | 'f' => some bool
    | '"' => some name
    | '[' => some list
    | '\x7b' => some record
    | _ => none

theorem ofStart?_chars (layout : Layout) (depth : Nat) (doc : Json) :
    ∃ c cs, doc.chars layout depth = c :: cs ∧ Kind.ofStart? c = some doc.kind := by
  cases doc with
  | number n =>
    obtain ⟨c, cs, hcs⟩ := List.exists_cons_of_ne_nil (Nat.toDigits_ne_nil (n := n) (b := 10))
    have hc : c ∈ Nat.toDigits 10 n := by
      rw [hcs]
      exact List.mem_cons_self
    have hdigit : c.isDigit = true := isDigit_of_mem_toDigits_ten hc
    refine ⟨c, cs, hcs, ?_⟩
    unfold Kind.ofStart?
    rw [if_pos hdigit]
    rfl
  | bool b => cases b <;> exact ⟨_, _, rfl, rfl⟩
  | name text => exact ⟨_, _, rfl, rfl⟩
  | list items => cases items <;> exact ⟨_, _, rfl, rfl⟩
  | record fields => cases fields <;> exact ⟨_, _, rfl, rfl⟩

section

variable {layout : Layout} {depth : Nat} {doc doc' : Json} {us vs : List Char}

/-- Documents whose texts can be mistaken for each other are of one kind. -/
theorem kind_eq_of_chars_append
    (h : doc.chars layout depth ++ us = doc'.chars layout depth ++ vs) : doc.kind = doc'.kind := by
  obtain ⟨c, cs, hcs, hc⟩ := ofStart?_chars layout depth doc
  obtain ⟨d, ds, hds, hd⟩ := ofStart?_chars layout depth doc'
  rw [hcs, hds] at h
  obtain ⟨rfl, -⟩ := List.cons.inj h
  exact Option.some.inj (hc.symm.trans hd)

theorem chars_append_ne_cons {c : Char} (hc : Kind.ofStart? c = none) :
    doc.chars layout depth ++ us ≠ c :: vs := by
  obtain ⟨d, ds, hds, hd⟩ := ofStart?_chars layout depth doc
  rw [hds]
  intro h
  obtain ⟨rfl, -⟩ := List.cons.inj h
  rw [hc] at hd
  cases hd

theorem quoted_append_inj {x y : String} (hx : Lettered x) (hy : Lettered y)
    (h : quoted x ++ us = quoted y ++ vs) : x = y ∧ us = vs := by
  unfold quoted at h
  rw [List.cons_append, List.cons_append, List.append_assoc, List.append_assoc] at h
  obtain ⟨hxy, huv⟩ := append_inj_of_stops hx hy (stops_append (by decide))
    (stops_append (by decide)) (List.cons.inj h).2
  exact ⟨String.toList_inj.1 hxy, List.append_cancel_left huv⟩

end

/-! ## The compact text -/

section

variable (depth : Nat) (key : String) (value item : Json) (items : List Json)
  (fields : List (String × Json)) (us : List Char)

theorem chars_list_cons_append :
    (list (item :: items)).chars .compact depth ++ us =
      '[' :: (item.chars .compact (depth + 1) ++
        (itemChars .compact (depth + 1) items ++ ']' :: us)) := by
  simp [chars, Layout.compact]

theorem chars_record_cons_append :
    (record ((key, value) :: fields)).chars .compact depth ++ us =
      '\x7b' :: (quoted key ++ (':' :: (value.chars .compact (depth + 1) ++
        (fieldChars .compact (depth + 1) fields ++ '\x7d' :: us)))) := by
  simp [chars, Layout.compact]

theorem itemChars_cons_append :
    itemChars .compact depth (item :: items) ++ us =
      ',' :: (item.chars .compact depth ++ (itemChars .compact depth items ++ us)) := by
  simp [itemChars, Layout.compact]

theorem fieldChars_cons_append :
    fieldChars .compact depth ((key, value) :: fields) ++ us =
      ',' :: (quoted key ++ (':' :: (value.chars .compact depth ++
        (fieldChars .compact depth fields ++ us)))) := by
  simp [fieldChars, Layout.compact]

/-- What stands behind an item of a list is no digit. -/
theorem stops_itemChars :
    Stops Char.isDigit (itemChars .compact depth items ++ ']' :: us) := by
  cases items with
  | nil => exact stops_cons (by decide)
  | cons item items =>
    rw [itemChars_cons_append]
    exact stops_cons (by decide)

theorem stops_fieldChars :
    Stops Char.isDigit (fieldChars .compact depth fields ++ '\x7d' :: us) := by
  cases fields with
  | nil => exact stops_cons (by decide)
  | cons field fields =>
    rw [fieldChars_cons_append]
    exact stops_cons (by decide)

end

section

variable {depth : Nat} {us vs : List Char}

/-- A list differs from what is written of its items in the first mark only, for no item starts as
a list ends. -/
theorem itemChars_eq_of_list {items items' : List Json}
    (h : (list items).chars .compact depth ++ us = (list items').chars .compact depth ++ vs) :
    itemChars .compact (depth + 1) items ++ ']' :: us =
      itemChars .compact (depth + 1) items' ++ ']' :: vs := by
  cases items with
  | nil =>
    cases items' with
    | nil => exact (List.cons.inj h).2
    | cons item' items' =>
      rw [chars_list_cons_append] at h
      exact absurd (List.cons.inj h).2.symm (chars_append_ne_cons rfl)
  | cons item items =>
    cases items' with
    | nil =>
      rw [chars_list_cons_append] at h
      exact absurd (List.cons.inj h).2 (chars_append_ne_cons rfl)
    | cons item' items' =>
      rw [chars_list_cons_append, chars_list_cons_append] at h
      rw [itemChars_cons_append, itemChars_cons_append, (List.cons.inj h).2]

theorem fieldChars_eq_of_record {fields fields' : List (String × Json)}
    (h : (record fields).chars .compact depth ++ us = (record fields').chars .compact depth ++ vs) :
    fieldChars .compact (depth + 1) fields ++ '\x7d' :: us =
      fieldChars .compact (depth + 1) fields' ++ '\x7d' :: vs := by
  cases fields with
  | nil =>
    cases fields' with
    | nil => exact (List.cons.inj h).2
    | cons field' fields' =>
      rw [chars_record_cons_append] at h
      cases (List.cons.inj h).2
  | cons field fields =>
    cases fields' with
    | nil =>
      rw [chars_record_cons_append] at h
      cases (List.cons.inj h).2
    | cons field' fields' =>
      rw [chars_record_cons_append, chars_record_cons_append] at h
      rw [fieldChars_cons_append, fieldChars_cons_append, (List.cons.inj h).2]

end

mutual

theorem eq_of_chars_append : ∀ (doc doc' : Json) (depth : Nat) (us vs : List Char),
    doc.Plain → doc'.Plain → Stops Char.isDigit us → Stops Char.isDigit vs →
    doc.chars .compact depth ++ us = doc'.chars .compact depth ++ vs → doc = doc' ∧ us = vs
  | number m, doc', _, _, _, _, _, hus, hvs, h => by
    have hkind := kind_eq_of_chars_append h
    cases doc' with
    | number n =>
      simp only [chars] at h
      obtain ⟨rfl, huv⟩ := legible_toDigits_ten.append_inj hus hvs h
      exact ⟨rfl, huv⟩
    | _ => cases hkind
  | bool b, doc', _, _, _, _, _, _, _, h => by
    have hkind := kind_eq_of_chars_append h
    cases doc' with
    | bool b' => cases b <;> cases b' <;> simp_all [chars]
    | _ => cases hkind
  | name x, doc', _, _, _, hx, hdoc', _, _, h => by
    have hkind := kind_eq_of_chars_append h
    cases doc' with
    | name y =>
      simp only [chars] at h
      obtain ⟨rfl, huv⟩ := quoted_append_inj hx hdoc' h
      exact ⟨rfl, huv⟩
    | _ => cases hkind
  | list items, doc', depth, us, vs, hdoc, hdoc', _, _, h => by
    have hkind := kind_eq_of_chars_append h
    cases doc' with
    | list items' =>
      obtain ⟨rfl, huv⟩ := eq_of_itemChars_append items items' (depth + 1) us vs hdoc hdoc'
        (itemChars_eq_of_list h)
      exact ⟨rfl, huv⟩
    | _ => cases hkind
  | record fields, doc', depth, us, vs, hdoc, hdoc', _, _, h => by
    have hkind := kind_eq_of_chars_append h
    cases doc' with
    | record fields' =>
      obtain ⟨rfl, huv⟩ := eq_of_fieldChars_append fields fields' (depth + 1) us vs hdoc hdoc'
        (fieldChars_eq_of_record h)
      exact ⟨rfl, huv⟩
    | _ => cases hkind

theorem eq_of_itemChars_append : ∀ (items items' : List Json) (depth : Nat) (us vs : List Char),
    PlainItems items → PlainItems items' →
    itemChars .compact depth items ++ ']' :: us = itemChars .compact depth items' ++ ']' :: vs →
    items = items' ∧ us = vs
  | [], [], _, _, _, _, _, h => ⟨rfl, (List.cons.inj h).2⟩
  | [], item' :: items', _, _, _, _, _, h => by
    rw [itemChars_cons_append] at h
    cases h
  | item :: items, [], _, _, _, _, _, h => by
    rw [itemChars_cons_append] at h
    cases h
  | item :: items, item' :: items', depth, us, vs, hitems, hitems', h => by
    rw [itemChars_cons_append, itemChars_cons_append] at h
    obtain ⟨hitem, hrest⟩ := eq_of_chars_append item item' depth _ _ hitems.1 hitems'.1
      (stops_itemChars _ _ _) (stops_itemChars _ _ _) (List.cons.inj h).2
    obtain ⟨hitems, huv⟩ := eq_of_itemChars_append items items' depth us vs hitems.2 hitems'.2 hrest
    exact ⟨by rw [hitem, hitems], huv⟩

theorem eq_of_fieldChars_append : ∀ (fields fields' : List (String × Json)) (depth : Nat)
    (us vs : List Char), PlainFields fields → PlainFields fields' →
    fieldChars .compact depth fields ++ '\x7d' :: us =
      fieldChars .compact depth fields' ++ '\x7d' :: vs → fields = fields' ∧ us = vs
  | [], [], _, _, _, _, _, h => ⟨rfl, (List.cons.inj h).2⟩
  | [], field' :: fields', _, _, _, _, _, h => by
    rw [fieldChars_cons_append] at h
    cases h
  | field :: fields, [], _, _, _, _, _, h => by
    rw [fieldChars_cons_append] at h
    cases h
  | (key, value) :: fields, (key', value') :: fields', depth, us, vs, hfields, hfields', h => by
    rw [fieldChars_cons_append, fieldChars_cons_append] at h
    obtain ⟨hkey, hrest⟩ := quoted_append_inj hfields.1 hfields'.1 (List.cons.inj h).2
    obtain ⟨hvalue, hrest⟩ := eq_of_chars_append value value' depth _ _ hfields.2.1 hfields'.2.1
      (stops_fieldChars _ _ _) (stops_fieldChars _ _ _) (List.cons.inj hrest).2
    obtain ⟨hfields, huv⟩ :=
      eq_of_fieldChars_append fields fields' depth us vs hfields.2.2 hfields'.2.2 hrest
    exact ⟨by rw [hkey, hvalue, hfields], huv⟩

end

/-! ## Both texts -/

theorem solid_pretty {doc : Json} (h : doc.Plain) :
    solid doc.pretty.toList = doc.compact.toList := by
  unfold pretty compact
  rw [String.toList_ofList, String.toList_ofList]
  exact solid_chars Layout.spaced_pretty doc 0 0 h

theorem compact_inj {doc doc' : Json} (h : doc.Plain) (h' : doc'.Plain) :
    doc.compact = doc'.compact ↔ doc = doc' := by
  constructor
  · intro heq
    have hchars : doc.chars .compact 0 ++ [] = doc'.chars .compact 0 ++ [] := by
      rw [List.append_nil, List.append_nil]
      exact String.ofList_inj.1 heq
    exact (eq_of_chars_append doc doc' 0 [] [] h h' (by decide) (by decide) hchars).1
  · rintro rfl
    rfl

theorem pretty_inj {doc doc' : Json} (h : doc.Plain) (h' : doc'.Plain) :
    doc.pretty = doc'.pretty ↔ doc = doc' := by
  constructor
  · intro heq
    rw [← compact_inj h h', ← String.toList_inj, ← solid_pretty h, ← solid_pretty h', heq]
  · rintro rfl
    rfl

end AluBench.Json
