import Aats.Lib.DecimalText
import Aats.Lib.StableSort
import Mathlib.Data.String.Basic

/-!
# JSON as text

What `json.dumps` writes for a tree of values, without blanks and with sorted keys, and that a text is
written for one tree only. How a number with a point is written is left open: the text is not that of
an integer, and it is not that of another number.

## Main definitions
* `sorted` — the tree with its keys in order, at every depth.

## Main results
* `render_append_inj` — **what is written for a value cannot be continued to another value**.
-/

namespace JsonText

open DecimalText

/-! ### The text -/

def hexDigit (n : ℕ) : Char := if n < 10 then Char.ofNat (48 + n) else Char.ofNat (87 + n)

def hexValue (c : Char) : ℕ := if c.toNat < 58 then c.toNat - 48 else c.toNat - 87

/-- What stands for a character within quotes. -/
def escapeChar (c : Char) : List Char :=
  if c = '"' then ['\\', '"']
  else if c = '\\' then ['\\', '\\']
  else if c = '\n' then ['\\', 'n']
  else if c = '\r' then ['\\', 'r']
  else if c = '\t' then ['\\', 't']
  else if c = '\x08' then ['\\', 'b']
  else if c = '\x0c' then ['\\', 'f']
  else if c.toNat < 32 then ['\\', 'u', '0', '0', hexDigit (c.toNat / 16), hexDigit (c.toNat % 16)]
  else [c]

def quote (text : String) : List Char := '"' :: (text.toList.flatMap escapeChar ++ ['"'])

/-- A tree of values; `F` are the numbers with a point. -/
inductive Json (F : Type) where
  | null
  | bool (value : Bool)
  | int (value : ℤ)
  | float (value : F)
  | str (text : String)
  | list (items : List (Json F))
  | dict (entries : List (String × Json F))

/-- The text within brackets, without the comma before the first item. -/
def withoutComma : List Char → List Char
  | ',' :: text => text
  | text => text

variable {F : Type} (floatText : F → List Char)

mutual
def render : Json F → List Char
  | .null => "null".toList
  | .bool true => "true".toList
  | .bool false => "false".toList
  | .int value => intText value
  | .float value => floatText value
  | .str text => quote text
  | .list items => '[' :: withoutComma (renderItems items)
  | .dict entries => '\x7b' :: withoutComma (renderEntries entries)

def renderItems : List (Json F) → List Char
  | [] => [']']
  | value :: rest => ',' :: (render value ++ renderItems rest)

def renderEntries : List (String × Json F) → List Char
  | [] => ['\x7d']
  | (key, value) :: rest => ',' :: (quote key ++ ':' :: render value ++ renderEntries rest)
end

mutual
def sorted : Json F → Json F
  | .list items => .list (sortedItems items)
  | .dict entries => .dict (StableSort.sortOn Prod.fst (sortedEntries entries))
  | .null => .null
  | .bool value => .bool value
  | .int value => .int value
  | .float value => .float value
  | .str text => .str text

def sortedItems : List (Json F) → List (Json F)
  | [] => []
  | value :: rest => sorted value :: sortedItems rest

def sortedEntries : List (String × Json F) → List (String × Json F)
  | [] => []
  | (key, value) :: rest => (key, sorted value) :: sortedEntries rest
end

mutual
/-- The tree with its numbers with a point replaced. -/
def mapFloat {G : Type} (f : F → G) : Json F → Json G
  | .list items => .list (mapItems f items)
  | .dict entries => .dict (mapEntries f entries)
  | .float value => .float (f value)
  | .null => .null
  | .bool value => .bool value
  | .int value => .int value
  | .str text => .str text

def mapItems {G : Type} (f : F → G) : List (Json F) → List (Json G)
  | [] => []
  | value :: rest => mapFloat f value :: mapItems f rest

def mapEntries {G : Type} (f : F → G) : List (String × Json F) → List (String × Json G)
  | [] => []
  | (key, value) :: rest => (key, mapFloat f value) :: mapEntries f rest
end

mutual
/-- Trees that are equal up to the order of keys. -/
def Same : Json F → Json F → Prop
  | .list items, other => ∃ others, other = .list others ∧ SameItems items others
  | .dict entries, other => ∃ others, other = .dict others ∧ entries.length = others.length ∧
      SameEntries entries others
  | .null, other => other = .null
  | .bool value, other => other = .bool value
  | .int value, other => other = .int value
  | .float value, other => other = .float value
  | .str text, other => other = .str text

def SameItems : List (Json F) → List (Json F) → Prop
  | [], others => others = []
  | value :: rest, others => ∃ other tail, others = other :: tail ∧ Same value other ∧
      SameItems rest tail

def SameEntries : List (String × Json F) → List (String × Json F) → Prop
  | [], _ => True
  | (key, value) :: rest, others => (∃ other, (key, other) ∈ others ∧ Same value other) ∧
      SameEntries rest others
end

mutual
def KeysUnique : Json F → Prop
  | .list items => KeysUniqueItems items
  | .dict entries => (entries.map Prod.fst).Nodup ∧ KeysUniqueEntries entries
  | _ => True

def KeysUniqueItems : List (Json F) → Prop
  | [] => True
  | value :: rest => KeysUnique value ∧ KeysUniqueItems rest

def KeysUniqueEntries : List (String × Json F) → Prop
  | [] => True
  | (_, value) :: rest => KeysUnique value ∧ KeysUniqueEntries rest
end

theorem Json.rec_mem {P : Json F → Prop} (null : P .null) (bool : ∀ value, P (.bool value))
    (int : ∀ value, P (.int value)) (float : ∀ value, P (.float value))
    (str : ∀ text, P (.str text)) (list : ∀ items, (∀ item ∈ items, P item) → P (.list items))
    (dict : ∀ entries, (∀ entry ∈ entries, P entry.2) → P (.dict entries)) : ∀ value, P value
  | .null => null
  | .bool value => bool value
  | .int value => int value
  | .float value => float value
  | .str text => str text
  | .list items => list items fun item _ => rec_mem null bool int float str list dict item
  | .dict entries => dict entries fun entry _ => rec_mem null bool int float str list dict entry.2
decreasing_by
  all_goals
    have hless := List.sizeOf_lt_of_mem ‹_ ∈ _›
    try have hentry : sizeOf entry = 1 + sizeOf entry.1 + sizeOf entry.2 := rfl
    simp
    omega

/-! ### Quoted texts -/

def readEscaped : List Char → Option (Char × List Char)
  | '\\' :: 'u' :: _ :: _ :: high :: low :: rest =>
    some (Char.ofNat (16 * hexValue high + hexValue low), rest)
  | '\\' :: c :: rest =>
    some (if c = 'n' then '\n' else if c = 'r' then '\r' else if c = 't' then '\t'
      else if c = 'b' then '\x08' else if c = 'f' then '\x0c' else c, rest)
  | c :: rest => some (c, rest)
  | [] => none

theorem hexValue_hexDigit : ∀ n < 16, hexValue (hexDigit n) = n := by decide

theorem readEscaped_escapeChar (c : Char) (rest : List Char) :
    readEscaped (escapeChar c ++ rest) = some (c, rest) := by
  unfold escapeChar
  split_ifs with h₁ h₂ h₃ h₄ h₅ h₆ h₇ h₈
  · rw [h₁]; rfl
  · rw [h₂]; rfl
  · rw [h₃]; rfl
  · rw [h₄]; rfl
  · rw [h₅]; rfl
  · rw [h₆]; rfl
  · rw [h₇]; rfl
  · simp only [List.cons_append, List.nil_append, readEscaped]
    rw [hexValue_hexDigit _ (by omega), hexValue_hexDigit _ (by omega), Nat.div_add_mod,
      Char.ofNat_toNat]
  · rw [List.singleton_append]
    unfold readEscaped
    split
    · next heq => exact absurd (List.cons.inj heq).1 h₂
    · next heq => exact absurd (List.cons.inj heq).1 h₂
    · next heq => rw [(List.cons.inj heq).1, (List.cons.inj heq).2]
    · next heq => cases heq

theorem escapeChar_append_inj {c d : Char} {rest others : List Char}
    (h : escapeChar c ++ rest = escapeChar d ++ others) : c = d ∧ rest = others := by
  have hread := readEscaped_escapeChar c rest
  rw [h, readEscaped_escapeChar] at hread
  cases hread
  exact ⟨rfl, rfl⟩

theorem escapeChar_ne_quote (c : Char) (rest others : List Char) :
    escapeChar c ++ rest ≠ '"' :: others := by
  intro h
  have hread := readEscaped_escapeChar c rest
  rw [h] at hread
  cases hread
  exact absurd h (by simp [escapeChar])

theorem flatMap_escapeChar_inj {text other rest others : List Char}
    (h : text.flatMap escapeChar ++ '"' :: rest = other.flatMap escapeChar ++ '"' :: others) :
    text = other ∧ rest = others := by
  induction text generalizing other with
  | nil =>
    cases other with
    | nil => exact ⟨rfl, (List.cons.inj h).2⟩
    | cons d other =>
      rw [List.flatMap_cons, List.append_assoc] at h
      exact absurd h.symm (escapeChar_ne_quote d _ _)
  | cons c text ih =>
    cases other with
    | nil =>
      rw [List.flatMap_cons, List.append_assoc] at h
      exact absurd h (escapeChar_ne_quote c _ _)
    | cons d other =>
      rw [List.flatMap_cons, List.flatMap_cons, List.append_assoc, List.append_assoc] at h
      obtain ⟨rfl, hrest⟩ := escapeChar_append_inj h
      obtain ⟨rfl, rfl⟩ := ih hrest
      exact ⟨rfl, rfl⟩

theorem quote_append_inj {text other : String} {rest others : List Char}
    (h : quote text ++ rest = quote other ++ others) : text = other ∧ rest = others := by
  unfold quote at h
  rw [List.cons_append, List.cons_append, List.append_assoc, List.append_assoc] at h
  obtain ⟨htext, hrest⟩ := flatMap_escapeChar_inj (List.cons.inj h).2
  exact ⟨String.toList_inj.mp htext, hrest⟩

/-! ### Numbers -/

def isNumberChar (c : Char) : Bool := c.isDigit || c = '-' || c = '+' || c = '.' || c = 'e'

/-- Different numbers with a point have different texts, and a point or an exponent is in each. -/
structure NumberTexts (floatText : F → List Char) : Prop where
  injective : Function.Injective floatText
  chars : ∀ value, ∀ c ∈ floatText value, isNumberChar c = true
  marked : ∀ value, '.' ∈ floatText value ∨ 'e' ∈ floatText value

theorem mem_intText {value : ℤ} {c : Char} (h : c ∈ intText value) : c.isDigit = true ∨ c = '-' := by
  rcases List.mem_append.mp h with hsign | hdigit
  · split at hsign
    · exact .inr (List.mem_singleton.mp hsign)
    · exact absurd hsign List.not_mem_nil
  · exact .inl (List.all_eq_true.mp (all_isDigit_toDigits _) c hdigit)

theorem intText_injective : Function.Injective intText := fun value other h => by
  have hread := readExponent_intText value
  rw [h, readExponent_intText] at hread
  exact (Option.some.inj hread).symm

def EndsNumber (rest : List Char) : Prop := ∀ c, rest.head? = some c → isNumberChar c = false

theorem numberText_append_inj {text other rest others : List Char}
    (htext : ∀ c ∈ text, isNumberChar c = true) (hother : ∀ c ∈ other, isNumberChar c = true)
    (hrest : EndsNumber rest) (hothers : EndsNumber others) (h : text ++ rest = other ++ others) :
    text = other ∧ rest = others := by
  induction text generalizing other with
  | nil =>
    cases other with
    | nil => exact ⟨rfl, h⟩
    | cons d other =>
      have hd := hrest d (by rw [← List.nil_append rest, h]; rfl)
      rw [hother d List.mem_cons_self] at hd
      cases hd
  | cons c text ih =>
    cases other with
    | nil =>
      have hc := hothers c (by rw [← List.nil_append others, ← h]; rfl)
      rw [htext c List.mem_cons_self] at hc
      cases hc
    | cons d other =>
      obtain ⟨rfl, htail⟩ := List.cons.inj h
      obtain ⟨rfl, rfl⟩ := ih (fun x hx => htext x (List.mem_cons_of_mem _ hx))
        (fun x hx => hother x (List.mem_cons_of_mem _ hx)) htail
      exact ⟨rfl, rfl⟩

/-! ### Trees -/

/-- The first character of a text, where all characters of numbers count as one, and so do those of
truth values. -/
def kindOf (text : List Char) : Option Char :=
  text.head?.map fun c => if isNumberChar c then '0' else if c = 't' then 'f' else c

theorem kindOf_append {text : List Char} (h : text ≠ []) (rest : List Char) :
    kindOf (text ++ rest) = kindOf text := by
  unfold kindOf
  rw [List.head?_append_of_ne_nil _ h]

theorem kindOf_number {text : List Char} (hne : text ≠ [])
    (h : ∀ c ∈ text, isNumberChar c = true) : kindOf text = some '0' := by
  obtain ⟨c, cs, rfl⟩ := List.exists_cons_of_ne_nil hne
  unfold kindOf
  rw [List.head?_cons, Option.map_some, if_pos (h c List.mem_cons_self)]

theorem intText_chars (value : ℤ) : ∀ c ∈ intText value, isNumberChar c = true := by
  intro c hmem
  rcases mem_intText hmem with h | rfl
  · simp [isNumberChar, h]
  · rfl

theorem intText_ne_nil (value : ℤ) : intText value ≠ [] :=
  List.append_ne_nil_of_right_ne_nil _ Nat.toDigits_ne_nil

theorem NumberTexts.ne_nil {floatText : F → List Char} (hf : NumberTexts floatText) (value : F) :
    floatText value ≠ [] := by
  intro h
  have hmarked := hf.marked value
  rw [h] at hmarked
  rcases hmarked with hmem | hmem <;> cases hmem

def kind : Json F → Char
  | .null => 'n'
  | .bool _ => 'f'
  | .int _ => '0'
  | .float _ => '0'
  | .str _ => '"'
  | .list _ => '['
  | .dict _ => '\x7b'

theorem render_kind {floatText : F → List Char} (hf : NumberTexts floatText) (value : Json F) :
    render floatText value ≠ [] ∧ kindOf (render floatText value) = some (kind value) := by
  cases value with
  | null => exact ⟨List.cons_ne_nil _ _, rfl⟩
  | bool value => cases value <;> exact ⟨List.cons_ne_nil _ _, rfl⟩
  | int value =>
    rw [render]
    exact ⟨intText_ne_nil value, kindOf_number (intText_ne_nil value) (intText_chars value)⟩
  | float value =>
    rw [render]
    exact ⟨hf.ne_nil value, kindOf_number (hf.ne_nil value) (hf.chars value)⟩
  | str text =>
    rw [render]
    exact ⟨List.cons_ne_nil _ _, rfl⟩
  | list items =>
    rw [render]
    exact ⟨List.cons_ne_nil _ _, rfl⟩
  | dict entries =>
    rw [render]
    exact ⟨List.cons_ne_nil _ _, rfl⟩

theorem kind_eq {floatText : F → List Char} (hf : NumberTexts floatText) {value other : Json F}
    {rest others : List Char}
    (h : render floatText value ++ rest = render floatText other ++ others) :
    kind value = kind other := by
  obtain ⟨hne, hkind⟩ := render_kind hf value
  obtain ⟨hne', hkind'⟩ := render_kind hf other
  have heq := congrArg kindOf h
  rw [kindOf_append hne, kindOf_append hne', hkind, hkind'] at heq
  exact Option.some.inj heq

theorem intText_ne_floatText {floatText : F → List Char} (hf : NumberTexts floatText) (value : ℤ)
    (other : F) : intText value ≠ floatText other := by
  intro h
  rcases hf.marked other with hmem | hmem
  all_goals
    rw [← h] at hmem
    rcases mem_intText hmem with hdigit | hsign
    · exact absurd hdigit (by decide)
    · exact absurd hsign (by decide)

section Unambiguous

/-- A text that is written for a value, whatever follows it, is written for no other value. -/
def Unambiguous {α : Type} (enc : α → List Char) (value : α) : Prop :=
  ∀ other rest others, EndsNumber rest → EndsNumber others →
    enc value ++ rest = enc other ++ others → value = other ∧ rest = others

/-- Values with a comma before each, and a bracket at the end. -/
def joined {α : Type} (enc : α → List Char) (close : Char) (values : List α) : List Char :=
  values.flatMap (fun value => ',' :: enc value) ++ [close]

theorem renderItems_eq (items : List (Json F)) :
    renderItems floatText items = joined (render floatText) ']' items := by
  induction items with
  | nil => rfl
  | cons value rest ih =>
    rw [renderItems, ih]
    simp [joined]

def entryText (entry : String × Json F) : List Char := quote entry.1 ++ ':' :: render floatText entry.2

theorem renderEntries_eq (entries : List (String × Json F)) :
    renderEntries floatText entries = joined (entryText floatText) '\x7d' entries := by
  induction entries with
  | nil => rfl
  | cons entry rest ih =>
    obtain ⟨key, value⟩ := entry
    rw [renderEntries, ih]
    simp [joined, entryText]

theorem joined_append_inj {α : Type} {enc : α → List Char} {close : Char} {values others : List α}
    {rest tail : List Char} (hvalues : ∀ value ∈ values, Unambiguous enc value)
    (hclose : close ≠ ',') (hnumber : isNumberChar close = false)
    (h : joined enc close values ++ rest = joined enc close others ++ tail) :
    values = others ∧ rest = tail := by
  have hends : ∀ (items : List α) (text : List Char),
      EndsNumber (items.flatMap (fun value => ',' :: enc value) ++ close :: text) := by
    intro items text c hc
    cases items with
    | nil => rw [← Option.some.inj hc]; exact hnumber
    | cons item items => rw [← Option.some.inj hc]; rfl
  unfold joined at h
  rw [List.append_assoc, List.append_assoc, List.singleton_append, List.singleton_append] at h
  induction values generalizing others with
  | nil =>
    cases others with
    | nil => exact ⟨rfl, (List.cons.inj h).2⟩
    | cons other others => exact absurd (List.cons.inj h).1 hclose
  | cons value values ih =>
    cases others with
    | nil => exact absurd (List.cons.inj h).1.symm hclose
    | cons other others =>
      rw [List.flatMap_cons, List.flatMap_cons, List.cons_append, List.cons_append,
        List.cons_append, List.cons_append, List.append_assoc, List.append_assoc] at h
      obtain ⟨rfl, hrest⟩ := hvalues value List.mem_cons_self other _ _ (hends values rest)
        (hends others tail) (List.cons.inj h).2
      obtain ⟨rfl, heq⟩ := ih (fun item hmem => hvalues item (List.mem_cons_of_mem _ hmem)) hrest
      exact ⟨rfl, heq⟩

/-- The first comma can be left out if the bracket does not begin a value. -/
theorem withoutComma_joined_inj {α : Type} {enc : α → List Char} {close : Char}
    {values others : List α} {rest tail : List Char} (hclose : close ≠ ',')
    (hfirst : ∀ value text other, enc value ++ text ≠ close :: other)
    (h : withoutComma (joined enc close values) ++ rest =
      withoutComma (joined enc close others) ++ tail) :
    joined enc close values ++ rest = joined enc close others ++ tail := by
  have hnil : withoutComma (joined enc close []) = [close] := by
    simp only [joined, List.flatMap_nil, List.nil_append]
    unfold withoutComma
    split
    · next heq => exact absurd (List.cons.inj heq).1 hclose
    · rfl
  have hcons : ∀ value items, withoutComma (joined enc close (value :: items)) =
      enc value ++ joined enc close items := fun value items => by
    simp [joined, withoutComma]
  have hcomma : ∀ value items, joined enc close (value :: items) =
      ',' :: withoutComma (joined enc close (value :: items)) := fun value items => by
    rw [hcons]
    simp [joined]
  cases values with
  | nil =>
    cases others with
    | nil => rw [hnil] at h; exact h
    | cons other others =>
      rw [hnil, hcons, List.append_assoc] at h
      exact absurd h.symm (hfirst _ _ _)
  | cons value values =>
    cases others with
    | nil =>
      rw [hnil, hcons, List.append_assoc] at h
      exact absurd h (hfirst _ _ _)
    | cons other others =>
      rw [hcomma, hcomma other, List.cons_append, List.cons_append, h]

variable {floatText} (hf : NumberTexts floatText)

include hf

theorem render_ne_bracket (value : Json F) (rest others : List Char) :
    render floatText value ++ rest ≠ ']' :: others := by
  intro h
  obtain ⟨hne, hkind⟩ := render_kind hf value
  rw [← kindOf_append hne rest, h] at hkind
  cases value <;> simp [kindOf, kind, isNumberChar] at hkind

theorem unambiguous_render (value : Json F) : Unambiguous (render floatText) value := by
  induction value using Json.rec_mem with
  | null =>
    intro other rest others _ _ h
    cases other with
    | null => exact ⟨rfl, List.append_cancel_left h⟩
    | _ => exact absurd (kind_eq hf h) (by simp [kind])
  | bool value =>
    intro other rest others _ _ h
    cases other with
    | bool other =>
      cases value <;> cases other <;> simp only [render] at h
      · exact ⟨rfl, List.append_cancel_left h⟩
      · exact absurd (List.cons.inj h).1 (by decide)
      · exact absurd (List.cons.inj h).1 (by decide)
      · exact ⟨rfl, List.append_cancel_left h⟩
    | _ => exact absurd (kind_eq hf h) (by simp [kind])
  | int value =>
    intro other rest others hrest hothers h
    cases other with
    | int other =>
      rw [render, render] at h
      obtain ⟨htext, heq⟩ :=
        numberText_append_inj (intText_chars value) (intText_chars other) hrest hothers h
      exact ⟨congrArg _ (intText_injective htext), heq⟩
    | float other =>
      rw [render, render] at h
      exact absurd (numberText_append_inj (intText_chars value) (hf.chars other) hrest hothers h).1
        (intText_ne_floatText hf value other)
    | _ => exact absurd (kind_eq hf h) (by simp [kind])
  | float value =>
    intro other rest others hrest hothers h
    cases other with
    | float other =>
      rw [render, render] at h
      obtain ⟨htext, heq⟩ :=
        numberText_append_inj (hf.chars value) (hf.chars other) hrest hothers h
      exact ⟨congrArg _ (hf.injective htext), heq⟩
    | int other =>
      rw [render, render] at h
      exact absurd (numberText_append_inj (hf.chars value) (intText_chars other) hrest hothers h).1.symm
        (intText_ne_floatText hf other value)
    | _ => exact absurd (kind_eq hf h) (by simp [kind])
  | str text =>
    intro other rest others _ _ h
    cases other with
    | str other =>
      rw [render, render] at h
      obtain ⟨rfl, heq⟩ := quote_append_inj h
      exact ⟨rfl, heq⟩
    | _ => exact absurd (kind_eq hf h) (by simp [kind])
  | list items ih =>
    intro other rest others _ _ h
    cases other with
    | list otherItems =>
      rw [render, render, renderItems_eq, renderItems_eq] at h
      obtain ⟨rfl, heq⟩ := joined_append_inj ih (by decide) rfl
        (withoutComma_joined_inj (by decide) (render_ne_bracket hf) (List.cons.inj h).2)
      exact ⟨rfl, heq⟩
    | _ => exact absurd (kind_eq hf h) (by simp [kind])
  | dict entries ih =>
    intro other rest others _ _ h
    cases other with
    | dict otherEntries =>
      rw [render, render, renderEntries_eq, renderEntries_eq] at h
      have hentries : ∀ entry ∈ entries, Unambiguous (entryText floatText) entry := by
        intro entry hmem other rest others hrest hothers htext
        unfold entryText at htext
        rw [List.append_assoc, List.append_assoc] at htext
        obtain ⟨hkey, hvalue⟩ := quote_append_inj htext
        obtain ⟨hsame, heq⟩ := ih entry hmem other.2 rest others hrest hothers (List.cons.inj hvalue).2
        exact ⟨Prod.ext hkey hsame, heq⟩
      have hfirst : ∀ (entry : String × Json F) (text other : List Char),
          entryText floatText entry ++ text ≠ '\x7d' :: other :=
        fun _ _ _ hbracket => absurd (List.cons.inj hbracket).1 (by decide)
      obtain ⟨rfl, heq⟩ := joined_append_inj hentries (by decide) rfl
        (withoutComma_joined_inj (by decide) hfirst (List.cons.inj h).2)
      exact ⟨rfl, heq⟩
    | _ => exact absurd (kind_eq hf h) (by simp [kind])

theorem render_injective : Function.Injective (render floatText) := fun value other h => by
  have hends : EndsNumber [] := fun _ hc => by cases hc
  exact (unambiguous_render hf value other [] [] hends hends (by rw [h])).1

end Unambiguous

/-! ### Trees up to the order of keys -/

section Order

theorem keysUniqueItems_iff (items : List (Json F)) :
    KeysUniqueItems items ↔ ∀ item ∈ items, KeysUnique item := by
  induction items with
  | nil => simp [KeysUniqueItems]
  | cons value rest ih => simp [KeysUniqueItems, ih]

theorem keysUniqueEntries_iff (entries : List (String × Json F)) :
    KeysUniqueEntries entries ↔ ∀ entry ∈ entries, KeysUnique entry.2 := by
  induction entries with
  | nil => simp [KeysUniqueEntries]
  | cons entry rest ih =>
    obtain ⟨key, value⟩ := entry
    rw [KeysUniqueEntries, ih, List.forall_mem_cons]

theorem keysUnique_mapFloat {G : Type} (f : F → G) (tree : Json F) :
    KeysUnique (mapFloat f tree) ↔ KeysUnique tree := by
  induction tree using Json.rec_mem with
  | list items ih =>
    rw [mapFloat, KeysUnique, KeysUnique]
    induction items with
    | nil => rfl
    | cons item items ihItems =>
      rw [List.forall_mem_cons] at ih
      rw [mapItems, KeysUniqueItems, KeysUniqueItems, ih.1, ihItems ih.2]
  | dict entries ih =>
    have hkeys : (mapEntries f entries).map Prod.fst = entries.map Prod.fst := by
      induction entries with
      | nil => rfl
      | cons entry entries ihEntries =>
        rw [mapEntries, List.map_cons, List.map_cons, ihEntries (List.forall_mem_cons.mp ih).2]
    rw [mapFloat, KeysUnique, KeysUnique, hkeys]
    refine and_congr_right fun hnodup => ?_
    clear hnodup hkeys
    induction entries with
    | nil => rfl
    | cons entry entries ihEntries =>
      rw [List.forall_mem_cons] at ih
      rw [mapEntries, KeysUniqueEntries, KeysUniqueEntries, ih.1, ihEntries ih.2]
  | _ => rfl

theorem sortedEntries_eq (entries : List (String × Json F)) :
    sortedEntries entries = entries.map fun entry => (entry.1, sorted entry.2) := by
  induction entries with
  | nil => rfl
  | cons entry rest ih =>
    obtain ⟨key, value⟩ := entry
    rw [sortedEntries, ih, List.map_cons]

theorem sortOn_eq_iff {entries others : List (String × Json F)} (h : (entries.map Prod.fst).Nodup)
    (hothers : (others.map Prod.fst).Nodup) :
    StableSort.sortOn Prod.fst entries = StableSort.sortOn Prod.fst others ↔
      entries.length = others.length ∧ ∀ entry ∈ entries, entry ∈ others := by
  have hperm : StableSort.sortOn Prod.fst entries = StableSort.sortOn Prod.fst others ↔
      entries.Perm others := by
    constructor
    · intro heq
      exact (StableSort.sortOn_perm Prod.fst entries).symm.trans
        (heq ▸ StableSort.sortOn_perm Prod.fst others)
    · exact fun hperm => StableSort.sortOn_eq_of_perm Prod.fst hperm hothers
  rw [hperm]
  constructor
  · exact fun hperm => ⟨hperm.length_eq, fun entry hmem => hperm.mem_iff.mp hmem⟩
  · rintro ⟨hlength, hsub⟩
    exact (List.subperm_of_subset (List.Nodup.of_map _ h) hsub).perm_of_length_le hlength.ge

/-- **Trees are equal up to the order of keys exactly if they are equal when sorted.** -/
theorem sorted_eq_iff (value : Json F) : ∀ other : Json F, KeysUnique value → KeysUnique other →
    (sorted value = sorted other ↔ Same value other) := by
  induction value using Json.rec_mem with
  | null => intro other _ _; cases other <;> simp [sorted, Same]
  | bool value => intro other _ _; cases other <;> simp [sorted, Same, eq_comm]
  | int value => intro other _ _; cases other <;> simp [sorted, Same, eq_comm]
  | float value => intro other _ _; cases other <;> simp [sorted, Same, eq_comm]
  | str text => intro other _ _; cases other <;> simp [sorted, Same, eq_comm]
  | list items ih =>
    intro other hvalue hother
    cases other with
    | list others =>
      rw [KeysUnique, keysUniqueItems_iff] at hvalue hother
      simp only [sorted, Same, Json.list.injEq, exists_eq_left']
      induction items generalizing others with
      | nil => cases others <;> simp [sortedItems, SameItems]
      | cons item items ihItems =>
        cases others with
        | nil => simp [sortedItems, SameItems]
        | cons other others =>
          rw [List.forall_mem_cons] at hvalue hother ih
          simp only [sortedItems, SameItems, List.cons.injEq, ih.1 other hvalue.1 hother.1,
            ihItems ih.2 hvalue.2 others hother.2]
          simp
    | _ => simp [sorted, Same]
  | dict entries ih =>
    intro other hvalue hother
    cases other with
    | dict others =>
      rw [KeysUnique, keysUniqueEntries_iff] at hvalue hother
      have hkeys : ∀ list : List (String × Json F),
          (sortedEntries list).map Prod.fst = list.map Prod.fst := fun list => by
        rw [sortedEntries_eq, List.map_map]
        rfl
      simp only [sorted, Same, Json.dict.injEq, exists_eq_left']
      rw [sortOn_eq_iff (by rw [hkeys]; exact hvalue.1) (by rw [hkeys]; exact hother.1),
        sortedEntries_eq, sortedEntries_eq, List.length_map, List.length_map]
      refine and_congr_right fun hlength => ?_
      clear hlength
      obtain ⟨-, hvalue⟩ := hvalue
      induction entries with
      | nil => simp [SameEntries]
      | cons entry entries ihEntries =>
        obtain ⟨key, value⟩ := entry
        rw [List.forall_mem_cons] at hvalue ih
        rw [List.map_cons, List.forall_mem_cons, SameEntries, ihEntries ih.2 hvalue.2]
        refine and_congr_left fun _ => ?_
        rw [List.mem_map]
        constructor
        · rintro ⟨⟨otherKey, other⟩, hmem, heq⟩
          obtain ⟨rfl, hsorted⟩ := Prod.mk.inj heq
          exact ⟨other, hmem, (ih.1 other hvalue.1 (hother.2 _ hmem)).mp hsorted.symm⟩
        · rintro ⟨other, hmem, hsame⟩
          exact ⟨(key, other), hmem,
            Prod.ext rfl ((ih.1 other hvalue.1 (hother.2 _ hmem)).mpr hsame).symm⟩
    | _ => simp [sorted, Same]

end Order

end JsonText
