import DesignTokens.Proofs.Entries
import DesignTokens.Proofs.Token.Checks
import DesignTokens.Token.Basic

/-!
# Which tables are layers

A layer of a shadow is a table with five texts or numbers and a word for its placement
(`ShadowLayer.Shaped`). It is read from such a table (`ShadowLayer.HeldBy`), and in any other value
each field that is not as it should be is reported (`ShadowLayer.Offends`), in the order of
`ShadowLayer.places`. `ShadowLayer.meets_ofData` is the whole statement.
-/

namespace DesignTokens

/-! ## Shapes -/

/-- The text that a text or a number is kept as. -/
inductive Data.Spells : Data → String → Prop
  | text (s : String) : Spells (.text s) s
  | integer (n : Int) : Spells (.integer n) (toString n)
  | real (x : Double) : Spells (.real x) (x.text Double.tokenNumbers)

/-- The value is a text or a number. -/
def Data.IsScalar (value : Data) : Prop :=
  ∃ s, value.Spells s

/-- The field is there, and its text or number is kept as `s`. -/
def FieldSpells (entries : Entries Data) (name s : String) : Prop :=
  ∃ value, entries.get? name = some value ∧ value.Spells s

namespace ShadowLayer

/-- The fields that hold a text. -/
def textFields : List String := ["color", "x", "y", "blur", "spread"]

/-- The words for the placement of a layer. -/
def placementWords : List String := ["innerShadow", "dropShadow"]

/-- The fields that are looked at, in order. -/
def fieldOrder : List String := ["color", "type", "kind", "x", "y", "blur", "spread"]

/-- What says where a layer is placed: the field `type`, or `kind` when there is no `type`. -/
def placementData (entries : Entries Data) : Option Data :=
  (entries.get? "type").or (entries.get? "kind")

/-- A table with all fields of a layer. -/
structure Shaped (entries : Entries Data) : Prop where
  texts : ∀ name ∈ textFields, ∃ value, entries.get? name = some value ∧ value.IsScalar
  placement : ∃ word ∈ placementWords, placementData entries = some (.text word)

/-- The table holds the layer. -/
structure HeldBy (entries : Entries Data) (layer : ShadowLayer) : Prop where
  color : FieldSpells entries "color" layer.color
  placement : placementData entries = some (.text layer.placement.word)
  x : FieldSpells entries "x" layer.x
  y : FieldSpells entries "y" layer.y
  blur : FieldSpells entries "blur" layer.blur
  spread : FieldSpells entries "spread" layer.spread

/-- The field of a layer's table is not as it should be. -/
inductive FieldOffends (entries : Entries Data) : String → Defect → Prop
  | missing {name : String} : name ∈ textFields → entries.get? name = none →
      FieldOffends entries name .missing
  | notText {name : String} {value : Data} : name ∈ textFields → entries.get? name = some value →
      ¬ value.IsScalar → FieldOffends entries name .notText
  | noPlacement : entries.get? "type" = none → entries.get? "kind" = none →
      FieldOffends entries "type" .missing
  | unknownType {value : Data} : entries.get? "type" = some value →
      (∀ word ∈ placementWords, value ≠ .text word) → FieldOffends entries "type" .unknownWord
  | unknownKind {value : Data} : entries.get? "type" = none → entries.get? "kind" = some value →
      (∀ word ∈ placementWords, value ≠ .text word) → FieldOffends entries "kind" .unknownWord

/-- The value at the path is no layer, or a field of it is not as it should be. -/
inductive Offends (path : List PathStep) : Data → Issue → Prop
  | notLayer {value : Data} : (∀ entries, value ≠ .table entries) →
      Offends path value ⟨path, .notLayer⟩
  | field {entries : Entries Data} {name : String} {defect : Defect} :
      FieldOffends entries name defect →
      Offends path (.table entries) ⟨path ++ [.field name], defect⟩

/-- The places of some fields. -/
def fieldPlaces (path : List PathStep) (names : List String) : List (List PathStep) :=
  names.map fun name => path ++ [.field name]

/-- The places of a layer at the path, in order. -/
def places (path : List PathStep) : List (List PathStep) :=
  path :: fieldPlaces path fieldOrder

end ShadowLayer

/-! ## Texts and numbers -/

theorem Data.scalarText?_eq_some_iff {value : Data} {s : String} :
    value.scalarText? = some s ↔ value.Spells s := by
  constructor
  · intro same
    cases value <;> cases same <;> constructor
  · rintro (_ | _ | _) <;> rfl

theorem Data.isScalar_iff {value : Data} : value.IsScalar ↔ value.scalarText?.isSome := by
  rw [Option.isSome_iff_exists]
  simp only [scalarText?_eq_some_iff]
  rfl

theorem Data.meets_asText (path : List PathStep) (value : Data) :
    (value.asText path).Meets value.Spells
      (fun issue => ¬ value.IsScalar ∧ issue = ⟨path, .notText⟩) [path] := by
  rw [isScalar_iff]
  unfold asText
  constructor
  · intro s
    rw [← scalarText?_eq_some_iff]
    cases value.scalarText? <;> simp
  · intro issue
    cases value.scalarText? <;> simp [Checked.issues]
  · cases value.scalarText? <;> simp [Checked.issues]
  · cases value.scalarText? <;> simp [Checked.issues]

theorem FieldSpells.exists_isScalar {entries : Entries Data} {name s : String}
    (spells : FieldSpells entries name s) :
    ∃ value, entries.get? name = some value ∧ value.IsScalar := by
  obtain ⟨value, found, spells⟩ := spells
  exact ⟨value, found, s, spells⟩

theorem Data.isTable_or (value : Data) :
    (∃ entries, value = .table entries) ∨ ∀ entries, value ≠ .table entries :=
  (em _).imp_right not_exists.1

/-! ## Layers -/

namespace ShadowLayer

variable {path : List PathStep} {entries : Entries Data} {name : String}

/-- One of the fields is not as it should be. -/
def Reported (path : List PathStep) (entries : Entries Data) (names : List String) (issue : Issue) :
    Prop :=
  ∃ name ∈ names, ∃ defect, FieldOffends entries name defect ∧
    issue = ⟨path ++ [.field name], defect⟩

theorem reported_append {names names' : List String} {issue : Issue} :
    Reported path entries (names ++ names') issue ↔
      Reported path entries names issue ∨ Reported path entries names' issue := by
  simp only [Reported, List.mem_append, or_and_right, exists_or]

/-- Texts are not as they should be when they are missing or no texts. -/
theorem fieldOffends_text_iff (isText : name ∈ textFields) {defect : Defect} :
    FieldOffends entries name defect ↔ entries.get? name = none ∧ defect = .missing ∨
      ∃ value, entries.get? name = some value ∧ ¬ value.IsScalar ∧ defect = .notText := by
  constructor
  · rintro (⟨-, none⟩ | ⟨-, found, other⟩ | _ | _ | _)
    · exact .inl ⟨none, rfl⟩
    · exact .inr ⟨_, found, other, rfl⟩
    all_goals exact absurd isText (by decide)
  · rintro (⟨none, rfl⟩ | ⟨value, found, other, rfl⟩)
    · exact .missing isText none
    · exact .notText isText found other

theorem meets_textField (isText : name ∈ textFields) :
    (textField path entries name).Meets (FieldSpells entries name)
      (Reported path entries [name]) (fieldPlaces path [name]) := by
  have reported (issue : Issue) : Reported path entries [name] issue ↔
      ∃ defect, FieldOffends entries name defect ∧ issue = ⟨path ++ [.field name], defect⟩ := by
    simp [Reported]
  unfold textField
  cases found : entries.get? name with
  | none =>
    refine Checked.meets_error (fun s => ?_) fun issue => ?_
    · simp [FieldSpells, found]
    · simp [reported, fieldOffends_text_iff isText, found]
  | some value =>
    obtain ⟨ok, mem, ordered, reports⟩ := value.meets_asText (path ++ [.field name])
    refine ⟨fun s => ?_, fun issue => ?_, ordered, reports⟩
    · rw [ok]
      simp [FieldSpells, found]
    · rw [mem]
      simp [reported, fieldOffends_text_iff isText, found]

/-- The word that says where a layer is placed, if it is one of the two. -/
theorem ofWord?_eq_some_iff {word : String} {placement : Placement} :
    Placement.ofWord? word = some placement ↔ word = placement.word := by
  constructor
  · intro found
    have same := List.find?_some found
    exact (beq_iff_eq.1 same).symm
  · rintro rfl
    cases placement <;> rfl

theorem mem_placementWords_iff {word : String} :
    word ∈ placementWords ↔ ∃ placement : Placement, word = placement.word := by
  constructor
  · intro there
    rcases List.mem_pair.1 there with rfl | rfl
    · exact ⟨.inner, rfl⟩
    · exact ⟨.drop, rfl⟩
  · rintro ⟨placement, rfl⟩
    cases placement <;> decide

/-- The placement that a value says. -/
def placementAt (place : List PathStep) (value : Data) : Checked Placement :=
  match value.text?.bind Placement.ofWord? with
  | some placement => .ok placement
  | none => .error [⟨place, .unknownWord⟩]

theorem placementOf_of_get? {value : Data}
    (found : entries.get? (placementField entries) = some value) :
    placementOf path entries = placementAt (path ++ [.field (placementField entries)]) value := by
  unfold placementOf placementAt
  dsimp only
  rw [found]
  cases value <;> rfl

theorem meets_placementAt (place : List PathStep) (value : Data) :
    (placementAt place value).Meets (fun placement => value = .text placement.word)
      (fun issue => (∀ word ∈ placementWords, value ≠ .text word) ∧ issue = ⟨place, .unknownWord⟩)
      [place] := by
  have said (placement : Placement) : value.text?.bind Placement.ofWord? = some placement ↔
      value = .text placement.word := by
    cases value <;> simp [Data.text?, ofWord?_eq_some_iff]
  unfold placementAt
  cases word : value.text?.bind Placement.ofWord? with
  | some placement =>
    have same := (said placement).1 word
    refine ⟨fun other => ?_, fun issue => ?_, List.nil_sublist _, fun _ => ⟨placement, rfl⟩⟩
    · rw [← said, word]
      simp
    · refine ⟨nofun, fun ⟨unknown, _⟩ => ?_⟩
      exact absurd same (unknown _ (mem_placementWords_iff.2 ⟨placement, rfl⟩))
  | none =>
    have unknown : ∀ word ∈ placementWords, value ≠ .text word := by
      intro own there same
      obtain ⟨placement, rfl⟩ := mem_placementWords_iff.1 there
      rw [(said placement).2 same] at word
      cases word
    refine ⟨fun other => ?_, fun issue => ?_, .refl _, nofun⟩
    · rw [← said, word]
      simp
    · exact ⟨fun here => ⟨unknown, List.mem_singleton.1 here⟩, fun here =>
        List.mem_singleton.2 here.2⟩

theorem get?_placementField (entries : Entries Data) :
    entries.get? (placementField entries) = placementData entries := by
  unfold placementField placementData
  rw [← Entries.isSome_get?, ← Entries.isSome_get?]
  cases type : entries.get? "type" <;> cases kind : entries.get? "kind" <;> simp [type, kind]

/-- What offends in a placement stands under the field that is looked at. -/
theorem reported_placement_iff {issue : Issue} :
    Reported path entries ["type", "kind"] issue ↔
      placementData entries = none ∧
          issue = ⟨path ++ [.field (placementField entries)], .missing⟩ ∨
        ∃ value, placementData entries = some value ∧
          (∀ word ∈ placementWords, value ≠ .text word) ∧
          issue = ⟨path ++ [.field (placementField entries)], .unknownWord⟩ := by
  have field : placementField entries =
      if (entries.get? "kind").isSome && !(entries.get? "type").isSome then "kind" else "type" := by
    rw [Entries.isSome_get?, Entries.isSome_get?]
    rfl
  have other : ∀ name ∈ ["type", "kind"], name ∉ textFields := by decide
  constructor
  · rintro ⟨name, named, defect, offends, rfl⟩
    cases offends with
    | missing isText => exact absurd isText (other name named)
    | notText isText => exact absurd isText (other name named)
    | noPlacement type kind => exact .inl (by simp [placementData, field, type, kind])
    | unknownType type unknown =>
      exact .inr ⟨_, by simp [placementData, type], unknown, by simp [field, type]⟩
    | unknownKind type kind unknown =>
      exact .inr ⟨_, by simp [placementData, type, kind], unknown, by simp [field, type, kind]⟩
  · rw [field]
    unfold placementData
    cases type : entries.get? "type" with
    | some value =>
      rintro (⟨none, -⟩ | ⟨_, found, unknown, rfl⟩)
      · cases none
      · cases found
        exact ⟨"type", by decide, _, .unknownType type unknown, by simp⟩
    | none =>
      rw [Option.none_or]
      rintro (⟨kind, rfl⟩ | ⟨_, kind, unknown, rfl⟩)
      · exact ⟨"type", by decide, _, .noPlacement type kind, by simp [kind]⟩
      · exact ⟨"kind", by decide, _, .unknownKind type kind unknown, by simp [kind]⟩

theorem meets_placementOf :
    (placementOf path entries).Meets
      (fun placement => placementData entries = some (.text placement.word))
      (Reported path entries ["type", "kind"]) (fieldPlaces path ["type", "kind"]) := by
  have known : placementField entries ∈ ["type", "kind"] := by
    unfold placementField
    split <;> decide
  have inside : [path ++ [.field (placementField entries)]].Sublist
      (fieldPlaces path ["type", "kind"]) :=
    List.singleton_sublist.2 (List.mem_map_of_mem known)
  have found := get?_placementField entries
  cases said : placementData entries with
  | none =>
    rw [said] at found
    have missing : placementOf path entries =
        .error [⟨path ++ [.field (placementField entries)], .missing⟩] := by
      unfold placementOf
      dsimp only
      rw [found]
    rw [missing]
    refine (Checked.meets_error (fun placement => nofun) fun issue => ?_).congr (fun _ => .rfl)
      (fun _ => .rfl) inside
    simp [reported_placement_iff, said]
  | some value =>
    rw [said] at found
    rw [placementOf_of_get? found]
    refine (meets_placementAt _ value).congr (fun placement => ?_) (fun issue => ?_) inside
    · simp
    · simp [reported_placement_iff, said]

theorem ofEntries_eq (path : List PathStep) (entries : Entries Data) :
    ofEntries path entries =
      (Checked.both (textField path entries "color") (Checked.both (placementOf path entries)
        (Checked.both (textField path entries "x") (Checked.both (textField path entries "y")
          (Checked.both (textField path entries "blur") (textField path entries "spread")))))).map
      fun (color, placement, x, y, blur, spread) => ⟨color, placement, x, y, blur, spread⟩ := by
  unfold ofEntries
  cases textField path entries "color" <;> cases placementOf path entries <;>
    cases textField path entries "x" <;> cases textField path entries "y" <;>
    cases textField path entries "blur" <;> cases textField path entries "spread" <;>
    simp [Checked.both, Checked.issues, Except.map]

theorem meets_ofEntries :
    (ofEntries path entries).Meets (HeldBy entries) (Reported path entries fieldOrder)
      (fieldPlaces path fieldOrder) := by
  have text (name : String) (isText : name ∈ textFields) :
      (textField path entries name).Meets (FieldSpells entries name)
        (Reported path entries [name]) (fieldPlaces path [name]) := meets_textField isText
  have placement : (placementOf path entries).Meets _ _ _ := meets_placementOf
  have lengths := (text "x" (by decide)).both ((text "y" (by decide)).both
    ((text "blur" (by decide)).both (text "spread" (by decide))))
  have all := (text "color" (by decide)).both (placement.both lengths)
  -- The fields are checked in their order, so the places of their issues are in it too.
  have order : fieldOrder = ["color"] ++ (["type", "kind"] ++ (["x"] ++ (["y"] ++ (["blur"] ++
      ["spread"])))) := rfl
  rw [ofEntries_eq]
  refine (all.map fun layer => ?_).congr (fun _ => .rfl) (fun issue => ?_) (.refl _)
  · constructor
    · rintro ⟨color, placement, x, y, blur, spread⟩
      exact ⟨(layer.color, layer.placement, layer.x, layer.y, layer.blur, layer.spread),
        ⟨color, placement, x, y, blur, spread⟩, rfl⟩
    · rintro ⟨_, ⟨color, placement, x, y, blur, spread⟩, rfl⟩
      exact ⟨color, placement, x, y, blur, spread⟩
  · rw [order]
    simp only [reported_append]

theorem FieldOffends.mem_fieldOrder {defect : Defect} (offends : FieldOffends entries name defect) :
    name ∈ fieldOrder := by
  have texts : ∀ name ∈ textFields, name ∈ fieldOrder := by decide
  cases offends with
  | missing isText => exact texts name isText
  | notText isText => exact texts name isText
  | noPlacement | unknownType | unknownKind => decide

/-- A table is a layer unless a field of it offends. -/
theorem offends_table_iff {issue : Issue} :
    Offends path (.table entries) issue ↔ Reported path entries fieldOrder issue := by
  constructor
  · rintro (other | offends)
    · exact absurd rfl (other entries)
    · exact ⟨_, offends.mem_fieldOrder, _, offends, rfl⟩
  · rintro ⟨name, -, defect, offends, rfl⟩
    exact .field offends

theorem meets_ofData (path : List PathStep) (value : Data) :
    (ofData path value).Meets
      (fun layer => ∃ entries, value = .table entries ∧ HeldBy entries layer)
      (Offends path value) (places path) := by
  rcases value.isTable_or with ⟨entries, rfl⟩ | other
  · refine meets_ofEntries.congr (fun layer => ?_) (fun _ => offends_table_iff)
      (List.sublist_cons_self _ _)
    simp
  · have refused : ofData path value = .error [⟨path, .notLayer⟩] := by
      cases value with
      | table entries => exact absurd rfl (other entries)
      | _ => rfl
    have only (issue : Issue) : Offends path value issue ↔ issue = ⟨path, .notLayer⟩ := by
      constructor
      · rintro (_ | _)
        · rfl
        · exact absurd rfl (other _)
      · rintro rfl
        exact .notLayer other
    rw [refused]
    exact (Checked.meets_error (fun layer ⟨entries, same, _⟩ => other entries same) only).congr
      (fun _ => .rfl) (fun _ => .rfl) (List.singleton_sublist.2 List.mem_cons_self)

/-! ## Shapes and offending fields -/

theorem HeldBy.shaped {layer : ShadowLayer} (held : HeldBy entries layer) : Shaped entries where
  texts name there := by
    simp only [textFields, List.mem_cons, List.not_mem_nil, or_false] at there
    rcases there with rfl | rfl | rfl | rfl | rfl
    · exact held.color.exists_isScalar
    · exact held.x.exists_isScalar
    · exact held.y.exists_isScalar
    · exact held.blur.exists_isScalar
    · exact held.spread.exists_isScalar
  placement := ⟨_, mem_placementWords_iff.2 ⟨_, rfl⟩, held.placement⟩

/-- In a table with all fields of a layer nothing offends. -/
theorem Shaped.not_fieldOffends (shaped : Shaped entries) {defect : Defect} :
    ¬ FieldOffends entries name defect := by
  obtain ⟨texts, word, isWord, said⟩ := shaped
  intro offends
  cases offends with
  | missing isText none =>
    obtain ⟨value, found, -⟩ := texts name isText
    cases none.symm.trans found
  | notText isText found other =>
    obtain ⟨value, found', isScalar⟩ := texts name isText
    cases found.symm.trans found'
    exact other isScalar
  | noPlacement type kind =>
    unfold placementData at said
    rw [type, kind] at said
    cases said
  | unknownType type unknown =>
    unfold placementData at said
    rw [type] at said
    exact unknown word isWord (Option.some.inj said)
  | unknownKind type kind unknown =>
    unfold placementData at said
    rw [type, kind] at said
    exact unknown word isWord (Option.some.inj said)

theorem Shaped.not_offends (shaped : Shaped entries) {issue : Issue} :
    ¬ Offends path (.table entries) issue := by
  rintro (other | offends)
  · exact other entries rfl
  · exact shaped.not_fieldOffends offends

/-- The places of a layer are below its own. -/
theorem isPrefix_of_mem_places {place : List PathStep} (there : place ∈ places path) :
    path <+: place := by
  rcases List.mem_cons.1 there with rfl | there
  · exact List.prefix_rfl
  · obtain ⟨name, -, rfl⟩ := List.mem_map.1 there
    exact List.prefix_append _ _

theorem nodup_places (path : List PathStep) : (places path).Nodup := by
  refine List.nodup_cons.2 ⟨fun there => ?_, ?_⟩
  · obtain ⟨name, -, same⟩ := List.mem_map.1 there
    simp at same
  · refine List.Nodup.map (fun name other same => ?_) (by decide)
    simpa using same

end ShadowLayer

end DesignTokens
