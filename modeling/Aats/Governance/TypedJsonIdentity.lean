import Aats.Lib.Fallible
import Aats.Lib.JsonText

/-!
# Identities of typed JSON

`data_platform/governance/typed_json_identity.py`: a value gets the same bytes as another one exactly if
they are equal as typed trees. Numbers with a point differ from integers, and only the sign of a zero
and the order of the keys do not count.

## Main results
* `canonicalTypedJsonBytes_eq_iff` — **the bytes are equal exactly if the trees are**.
-/

namespace Aats.Governance

open Fallible JsonText

/-- Numbers with a point that are finite, with the text of each. -/
structure FloatFormat (F : Type) where
  zero : F
  isZero : F → Bool
  text : F → List Char

def typedJsonIdentityInvalid : String := "typed_json_identity_invalid"

variable {F : Type} (fmt : FloatFormat F)

/-- `0.0 if value == 0.0 else value`. -/
def FloatFormat.unsigned (value : F) : F := if fmt.isZero value then fmt.zero else value

mutual
/-- `_normalize_typed_json`. A leaf `none` stands for everything that is refused: a number that is not
finite, a text that cannot be encoded, and a value or a key of another type. -/
def normalizeTypedJson : Json (Option F) → Except String (Json F)
  | .null => return .null
  | .bool value => return .bool value
  | .int value => return .int value
  | .str text => return .str text
  | .float none => throw typedJsonIdentityInvalid
  | .float (some value) => return .float (fmt.unsigned value)
  | .list items => return .list (← normalizeItems items)
  | .dict entries => return .dict (← normalizeEntries entries)

def normalizeItems : List (Json (Option F)) → Except String (List (Json F))
  | [] => return []
  | value :: rest => return (← normalizeTypedJson value) :: (← normalizeItems rest)

def normalizeEntries : List (String × Json (Option F)) → Except String (List (String × Json F))
  | [] => return []
  | (key, value) :: rest => return (key, ← normalizeTypedJson value) :: (← normalizeEntries rest)
end

def canonicalTypedJsonBytes (value : Json (Option F)) : Except String ByteArray :=
  return (String.ofList (render fmt.text (sorted (← normalizeTypedJson fmt value)))).toByteArray

/-! ### What is accepted -/

theorem normalizeTypedJson_mapFloat (tree : Json F) :
    normalizeTypedJson fmt (mapFloat some tree) = .ok (mapFloat fmt.unsigned tree) := by
  induction tree using Json.rec_mem with
  | list items ih =>
    have hitems : normalizeItems fmt (mapItems some items) = .ok (mapItems fmt.unsigned items) := by
      induction items with
      | nil => rfl
      | cons item items ihItems =>
        rw [List.forall_mem_cons] at ih
        rw [mapItems, normalizeItems, ih.1, ok_bind, ihItems ih.2]
        rfl
    rw [mapFloat, normalizeTypedJson, hitems]
    rfl
  | dict entries ih =>
    have hentries : normalizeEntries fmt (mapEntries some entries) =
        .ok (mapEntries fmt.unsigned entries) := by
      induction entries with
      | nil => rfl
      | cons entry entries ihEntries =>
        obtain ⟨key, value⟩ := entry
        rw [List.forall_mem_cons] at ih
        rw [mapEntries, normalizeEntries, ih.1, ok_bind, ihEntries ih.2]
        rfl
    rw [mapFloat, normalizeTypedJson, hentries]
    rfl
  | _ => rfl

theorem exists_tree (value : Json (Option F)) : ∀ {normal : Json F},
    normalizeTypedJson fmt value = .ok normal → ∃ tree : Json F, value = mapFloat some tree := by
  induction value using Json.rec_mem with
  | null => exact fun _ => ⟨.null, rfl⟩
  | bool value => exact fun _ => ⟨.bool value, rfl⟩
  | int value => exact fun _ => ⟨.int value, rfl⟩
  | str text => exact fun _ => ⟨.str text, rfl⟩
  | float value =>
    intro normal h
    cases value with
    | none => cases h
    | some value => exact ⟨.float value, rfl⟩
  | list items ih =>
    intro normal h
    obtain ⟨normals, hitems, -⟩ := bind_eq_ok.mp h
    have htrees : ∃ trees : List (Json F), items = mapItems some trees := by
      clear h
      induction items generalizing normals with
      | nil => exact ⟨[], rfl⟩
      | cons item items ihItems =>
        rw [List.forall_mem_cons] at ih
        obtain ⟨_, hitem, hrest⟩ := bind_eq_ok.mp hitems
        obtain ⟨rest, hrest, -⟩ := bind_eq_ok.mp hrest
        obtain ⟨tree, rfl⟩ := ih.1 hitem
        obtain ⟨trees, rfl⟩ := ihItems ih.2 rest hrest
        exact ⟨tree :: trees, rfl⟩
    obtain ⟨trees, rfl⟩ := htrees
    exact ⟨.list trees, rfl⟩
  | dict entries ih =>
    intro normal h
    obtain ⟨normals, hentries, -⟩ := bind_eq_ok.mp h
    have htrees : ∃ trees : List (String × Json F), entries = mapEntries some trees := by
      clear h
      induction entries generalizing normals with
      | nil => exact ⟨[], rfl⟩
      | cons entry entries ihEntries =>
        obtain ⟨key, value⟩ := entry
        rw [List.forall_mem_cons] at ih
        obtain ⟨_, hvalue, hrest⟩ := bind_eq_ok.mp hentries
        obtain ⟨rest, hrest, -⟩ := bind_eq_ok.mp hrest
        obtain ⟨tree, htree⟩ := ih.1 hvalue
        obtain ⟨trees, rfl⟩ := ihEntries ih.2 rest hrest
        exact ⟨(key, tree) :: trees, by rw [mapEntries, ← htree]⟩
    obtain ⟨trees, rfl⟩ := htrees
    exact ⟨.dict trees, rfl⟩

/-- **The bytes of values are equal exactly if the values are equal as typed trees**, up to the order of
keys and the sign of a zero. -/
theorem canonicalTypedJsonBytes_eq_iff (hf : NumberTexts fmt.text) {value other : Json (Option F)}
    (hvalue : KeysUnique value) (hother : KeysUnique other) {bytes otherBytes : ByteArray}
    (h : canonicalTypedJsonBytes fmt value = .ok bytes)
    (h' : canonicalTypedJsonBytes fmt other = .ok otherBytes) :
    ∃ tree otherTree : Json F, value = mapFloat some tree ∧ other = mapFloat some otherTree ∧
      (bytes = otherBytes ↔
        Same (mapFloat fmt.unsigned tree) (mapFloat fmt.unsigned otherTree)) := by
  obtain ⟨normal, hnormal, hbytes⟩ := bind_eq_ok.mp h
  obtain ⟨normal', hnormal', hbytes'⟩ := bind_eq_ok.mp h'
  obtain ⟨tree, rfl⟩ := exists_tree fmt value hnormal
  obtain ⟨otherTree, rfl⟩ := exists_tree fmt other hnormal'
  rw [normalizeTypedJson_mapFloat] at hnormal hnormal'
  cases hnormal
  cases hnormal'
  refine ⟨tree, otherTree, rfl, rfl, ?_⟩
  rw [keysUnique_mapFloat, ← keysUnique_mapFloat fmt.unsigned] at hvalue hother
  rw [← pure_eq_ok.mp hbytes, ← pure_eq_ok.mp hbytes', String.toByteArray_inj, String.ofList_inj,
    ← sorted_eq_iff _ _ hvalue hother]
  exact (render_injective hf).eq_iff

/-- Whole numbers with a point, such as `1.0`. -/
def wholeFloats : FloatFormat ℤ where
  zero := 0
  isZero := fun value => value = 0
  text := fun value => DecimalText.intText value ++ ['.', '0']

theorem numberTexts_wholeFloats : NumberTexts wholeFloats.text where
  injective := (List.append_left_injective _).comp intText_injective
  chars value := List.forall_mem_append.mpr
    ⟨intText_chars value, by simp [isNumberChar]⟩
  marked value := .inl (List.mem_append_right _ List.mem_cons_self)

theorem canonicalTypedJsonBytes_eq_iff_intAndFloat :
    ∃ bytes otherBytes, canonicalTypedJsonBytes wholeFloats (.int 1) = .ok bytes ∧
      canonicalTypedJsonBytes wholeFloats (.float (some 1)) = .ok otherBytes ∧
      bytes ≠ otherBytes := by
  refine ⟨_, _, rfl, rfl, fun heq => ?_⟩
  obtain ⟨tree, otherTree, htree, hother, hiff⟩ := @canonicalTypedJsonBytes_eq_iff ℤ wholeFloats
    numberTexts_wholeFloats (.int 1) (.float (some 1)) trivial trivial _ _ rfl rfl
  have hsame := hiff.mp heq
  cases tree <;> cases htree
  cases otherTree <;> cases hother
  cases hsame

end Aats.Governance
