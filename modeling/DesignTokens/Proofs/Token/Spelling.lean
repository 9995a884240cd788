import DesignTokens.Proofs.Entries
import DesignTokens.Token.Basic

/-!
# Numbers written as texts

A number in the value of a token is kept as it is written. The same value with every number given as
a text makes the same token or meets the same issues (`Token.ofData_spelled`). That needs one fact
about numbers: none is written as a word for a placement, the only words that a value may hold.
-/

namespace DesignTokens

/-! ## The letters of a number -/

/-- Every character of a decimal that is laid out is a digit or one of four signs. -/
theorem Double.mem_place {layout : Layout} {d : Decimal} {c : Char} (there : c ∈ layout.place d) :
    c.isDigit ∨ c ∈ ['.', 'e', '-', '+'] := by
  have digit {n : Nat} (there : c ∈ Nat.toDigits 10 n) : c.isDigit ∨ c ∈ ['.', 'e', '-', '+'] :=
    .inl (Nat.isDigit_of_mem_toDigits (by decide) (by decide) there)
  have zero {n : Nat} (there : c ∈ List.replicate n '0') :
      c.isDigit ∨ c ∈ ['.', 'e', '-', '+'] := by
    rw [List.eq_of_mem_replicate there]
    decide
  unfold Layout.place at there
  simp only at there
  split at there
  · split at there
    · simp only [List.mem_append, List.mem_cons, List.not_mem_nil, or_false] at there
      rcases there with (there | there) | rfl | rfl
      · exact digit there
      · exact zero there
      · decide
      · decide
    · split at there
      · rcases List.mem_append.1 there with there | there
        · exact digit (List.mem_of_mem_take there)
        · rcases List.mem_cons.1 there with rfl | there
          · decide
          · exact digit (List.mem_of_mem_drop there)
      · simp only [List.mem_append, List.mem_cons] at there
        rcases there with (rfl | rfl | there) | there
        · decide
        · decide
        · exact zero there
        · exact digit there
  · simp only [List.mem_append, List.mem_cons, List.not_mem_nil, or_false] at there
    rcases there with (((there | there) | rfl | rfl) | there) | there
    · exact digit (List.mem_of_mem_take there)
    · split at there
      · cases there
      · rcases List.mem_cons.1 there with rfl | there
        · decide
        · exact digit (List.mem_of_mem_drop there)
    · decide
    · split <;> decide
    · exact zero there
    · exact digit there

theorem Double.not_mem_text (x : Double) : 'S' ∉ (x.text tokenNumbers).toList := by
  have sign : 'S' ∉ (if x.negative then "-" else "").toList := by split <;> decide
  unfold text
  simp only
  split
  · decide
  split
  · rw [String.toList_append, List.mem_append]
    exact not_or_intro sign (by decide)
  split
  · rw [String.toList_append, List.mem_append]
    exact not_or_intro sign (by decide)
  · rw [String.toList_append, List.mem_append, String.toList_ofList]
    exact not_or_intro sign fun there => (mem_place there).elim nofun (by decide)

theorem not_mem_toString (n : Int) : 'S' ∉ (toString n).toList := by
  have natural (m : Nat) : 'S' ∉ (toString m).toList := by
    intro there
    rw [Nat.toString_eq_ofList_toDigits, String.toList_ofList] at there
    have digit : 'S'.isDigit := Nat.isDigit_of_mem_toDigits (by decide) (by decide) there
    cases digit
  cases n with
  | ofNat m => exact natural m
  | negSucc m =>
    show 'S' ∉ ("-" ++ toString (m + 1)).toList
    rw [String.toList_append, List.mem_append]
    exact not_or_intro (by decide) (natural (m + 1))

/-- No number is written as a word for a placement. -/
theorem Placement.ofWord?_of_number (value : Data) {s : String}
    (number : value.numberText? = some s) : ofWord? s = none := by
  have none : 'S' ∉ s.toList := by
    cases value with
    | integer n =>
      cases number
      exact not_mem_toString n
    | real x =>
      cases number
      exact x.not_mem_text
    | _ => cases number
  refine List.find?_eq_none.2 fun placement _ same => none ?_
  rw [← beq_iff_eq.1 same]
  cases placement <;> decide

/-! ## Values without numbers -/

mutual

/-- The value with every number in it as a text. -/
def Data.spelled : Data → Data
  | .integer n => .text (toString n)
  | .real x => .text (x.text Double.tokenNumbers)
  | .list items => .list (spelledItems items)
  | .table entries => .table (spelledEntries entries)
  | value => value

def Data.spelledItems : List Data → List Data
  | [] => []
  | item :: rest => item.spelled :: spelledItems rest

def Data.spelledEntries : List (String × Data) → List (String × Data)
  | [] => []
  | (key, value) :: rest => (key, value.spelled) :: spelledEntries rest

end

theorem Data.spelledItems_eq_map (items : List Data) : spelledItems items = items.map spelled := by
  induction items with
  | nil => rfl
  | cons item rest ih => exact congrArg (item.spelled :: ·) ih

theorem Data.spelledEntries_eq_map (entries : Entries Data) :
    spelledEntries entries = entries.map fun entry => (entry.1, entry.2.spelled) := by
  induction entries with
  | nil => rfl
  | cons entry rest ih => exact congrArg ((entry.1, entry.2.spelled) :: ·) ih

theorem Data.get?_spelledEntries (entries : Entries Data) (key : String) :
    Entries.get? (spelledEntries entries) key = (entries.get? key).map spelled := by
  induction entries with
  | nil => rfl
  | cons entry rest ih =>
    obtain ⟨k, value⟩ := entry
    rw [spelledEntries, Entries.get?_cons, Entries.get?_cons, ih]
    split <;> rfl

theorem Data.has_spelledEntries (entries : Entries Data) (key : String) :
    Entries.has (spelledEntries entries) key = entries.has key := by
  rw [← Entries.isSome_get?, get?_spelledEntries, Option.isSome_map, Entries.isSome_get?]

theorem Data.asText_spelled (path : List PathStep) (value : Data) :
    value.spelled.asText path = value.asText path := by
  cases value <;> rfl

namespace ShadowLayer

variable (path : List PathStep) (entries : Entries Data)

theorem textField_spelledEntries (name : String) :
    textField path (Data.spelledEntries entries) name = textField path entries name := by
  unfold textField
  rw [Data.get?_spelledEntries]
  cases entries.get? name with
  | none => rfl
  | some value => exact value.asText_spelled _

theorem placementField_spelledEntries :
    placementField (Data.spelledEntries entries) = placementField entries := by
  unfold placementField
  rw [Data.has_spelledEntries, Data.has_spelledEntries]

theorem placementOf_spelledEntries :
    placementOf path (Data.spelledEntries entries) = placementOf path entries := by
  unfold placementOf
  simp only [placementField_spelledEntries, Data.get?_spelledEntries]
  cases entries.get? (placementField entries) with
  | none => rfl
  | some value =>
    cases value with
    -- A number is refused as no text, its text as no word for a placement.
    | integer n =>
      simp only [Option.map_some, Data.spelled, Placement.ofWord?_of_number (.integer n) rfl]
    | real x =>
      simp only [Option.map_some, Data.spelled, Placement.ofWord?_of_number (.real x) rfl]
    | _ => rfl

theorem ofEntries_spelledEntries :
    ofEntries path (Data.spelledEntries entries) = ofEntries path entries := by
  unfold ofEntries
  simp only [textField_spelledEntries, placementOf_spelledEntries]

theorem ofData_spelled (value : Data) : ofData path value.spelled = ofData path value := by
  cases value with
  | table entries => exact ofEntries_spelledEntries path entries
  | _ => rfl

end ShadowLayer

namespace TokenValue

theorem shadowOf_spelled (path : List PathStep) (value : Data) :
    shadowOf path value.spelled = shadowOf path value := by
  cases value with
  | table entries => simp only [shadowOf, Data.spelled, ShadowLayer.ofEntries_spelledEntries]
  | list items =>
    simp only [shadowOf, Data.spelled, Data.spelledItems_eq_map]
    refine congrArg Checked.all (List.ext_getElem? fun i => ?_)
    rw [List.getElem?_mapIdx, List.getElem?_mapIdx, List.getElem?_map, Option.map_map]
    exact congrArg (Option.map · items[i]?) (funext fun item => ShadowLayer.ofData_spelled _ item)
  | _ => rfl

theorem bundleOf_spelled (path : List PathStep) (value : Data) :
    bundleOf path value.spelled = bundleOf path value := by
  cases value with
  | table entries =>
    simp only [bundleOf, Data.spelled, Data.spelledEntries_eq_map, List.map_map]
    refine congrArg Checked.all (List.map_congr_left fun entry _ => ?_)
    exact congrArg (·.map (entry.1, ·)) (entry.2.asText_spelled _)
  | _ => rfl

end TokenValue

/-- Whether numbers are given as numbers or as texts makes no difference. -/
theorem Token.ofData_spelled (id name : String) (kind : TokenKind) (value : Data) :
    ofData id name kind value.spelled = ofData id name kind value := by
  unfold ofData
  simp only [Data.asText_spelled, TokenValue.shadowOf_spelled, TokenValue.bundleOf_spelled]

/-- A shadow with one layer may be given as the layer. -/
theorem Token.ofData_singleton (id name : String) (entries : Entries Data) :
    ofData id name .boxShadow (.list [.table entries]) =
      ofData id name .boxShadow (.table entries) :=
  rfl

end DesignTokens
