import DesignTokens.Proofs.Json.Keys
import DesignTokens.Proofs.Token.Layers
import DesignTokens.Proofs.Token.Spelling

/-!
# Which values make a token

The kind of a token asks for a value of one shape (`WellShaped`). A value of the shape makes a token
that holds its texts and numbers and nothing else (`Holds`). Any other value is refused, and every
place that offends is reported (`Offends`), in the order of `places`. `Token.meets_ofData` puts this
together from what the check of a text, of a layer and of a list of values does.
-/

namespace DesignTokens

/-! ## Shapes -/

/-- A value that a kind of token takes: two kinds take a table of texts and numbers, shadows take a
layer or a list of layers, and all other kinds take a text or a number. -/
inductive WellShaped : TokenKind → Data → Prop
  | plain {kind : TokenKind} {value : Data} : kind ∉ [.boxShadow, .composition, .typography] →
      value.IsScalar → WellShaped kind value
  | layer {entries : Entries Data} : ShadowLayer.Shaped entries →
      WellShaped .boxShadow (.table entries)
  | layers {items : List Data} :
      (∀ item ∈ items, ∃ entries, item = .table entries ∧ ShadowLayer.Shaped entries) →
      WellShaped .boxShadow (.list items)
  | bundle {kind : TokenKind} {entries : Entries Data} : kind ∈ [.composition, .typography] →
      (∀ entry ∈ entries, entry.2.IsScalar) → WellShaped kind (.table entries)

/-- The value holds the content of a token: the same texts, the numbers as they are spelled, and
nothing else. -/
inductive Holds : Data → TokenValue → Prop
  | plain {value : Data} {raw : String} : value.Spells raw → Holds value (.plain raw)
  | layer {entries : Entries Data} {layer : ShadowLayer} : ShadowLayer.HeldBy entries layer →
      Holds (.table entries) (.shadow [layer])
  | layers {items : List Data} {layers : List ShadowLayer} :
      List.Forall₂ (fun item layer =>
        ∃ entries, item = .table entries ∧ ShadowLayer.HeldBy entries layer) items layers →
      Holds (.list items) (.shadow layers)
  | bundle {entries : Entries Data} {properties : Entries String} :
      List.Forall₂ (fun entry property => property.1 = entry.1 ∧ entry.2.Spells property.2)
        entries properties →
      Holds (.table entries) (.bundle properties)

/-- The place in a value is not as the kind asks for. -/
inductive Offends : TokenKind → Data → Issue → Prop
  | notText {kind : TokenKind} {value : Data} : kind ∉ [.boxShadow, .composition, .typography] →
      ¬ value.IsScalar → Offends kind value ⟨[.field "value"], .notText⟩
  | notList {value : Data} : (∀ entries, value ≠ .table entries) → (∀ items, value ≠ .list items) →
      Offends .boxShadow value ⟨[.field "value"], .notList⟩
  | layer {entries : Entries Data} {issue : Issue} :
      ShadowLayer.Offends [.field "value", .index 0] (.table entries) issue →
      Offends .boxShadow (.table entries) issue
  | layers {items : List Data} {i : Nat} {item : Data} {issue : Issue} : items[i]? = some item →
      ShadowLayer.Offends [.field "value", .index i] item issue →
      Offends .boxShadow (.list items) issue
  | notTable {kind : TokenKind} {value : Data} : kind ∈ [.composition, .typography] →
      (∀ entries, value ≠ .table entries) → Offends kind value ⟨[.field "value"], .notTable⟩
  | property {kind : TokenKind} {entries : Entries Data} {key : String} {value : Data} :
      kind ∈ [.composition, .typography] → (key, value) ∈ entries → ¬ value.IsScalar →
      Offends kind (.table entries) ⟨[.field "value", .field key], .notText⟩

/-- The places of a value that a kind asks about, in order. -/
def places (kind : TokenKind) (value : Data) : List (List PathStep) :=
  match kind.form, value with
  | .shadow, .table _ => ShadowLayer.places [.field "value", .index 0]
  | .shadow, .list items => (List.range items.length).flatMap fun i =>
    ShadowLayer.places [.field "value", .index i]
  | .bundle, .table entries => Entries.keys entries |>.map fun key => [.field "value", .field key]
  | _, _ => [[.field "value"]]

/-! ## Values -/

namespace TokenValue

theorem meets_layer (path : List PathStep) (entries : Entries Data) :
    (shadowOf path (.table entries)).Meets
      (fun layers => ∃ layer, layers = [layer] ∧ ShadowLayer.HeldBy entries layer)
      (ShadowLayer.Offends (path ++ [.index 0]) (.table entries))
      (ShadowLayer.places (path ++ [.index 0])) := by
  have each : ∀ table ∈ [entries], (ShadowLayer.ofEntries (path ++ [.index 0]) table).Meets
      (ShadowLayer.HeldBy table)
      (ShadowLayer.Reported (path ++ [.index 0]) table ShadowLayer.fieldOrder)
      (ShadowLayer.fieldPlaces (path ++ [.index 0]) ShadowLayer.fieldOrder) :=
    fun _ _ => ShadowLayer.meets_ofEntries
  refine (Checked.Meets.all each).congr (fun layers => ?_) (fun issue => ?_) ?_
  · rw [List.forall₂_cons_left_iff]
    simp [and_comm]
  · rw [ShadowLayer.offends_table_iff]
    simp
  · simp [ShadowLayer.places, ShadowLayer.fieldPlaces]

/-- The layers of a list are looked at one after another. -/
theorem meets_layers (path : List PathStep) (items : List Data) :
    (shadowOf path (.list items)).Meets
      (List.Forall₂ (fun item layer =>
        ∃ entries, item = .table entries ∧ ShadowLayer.HeldBy entries layer) items)
      (fun issue => ∃ i item, items[i]? = some item ∧
        ShadowLayer.Offends (path ++ [.index i]) item issue)
      ((List.range items.length).flatMap fun i => ShadowLayer.places (path ++ [.index i])) := by
  have each : ∀ item ∈ items.zipIdx, (ShadowLayer.ofData (path ++ [.index item.2]) item.1).Meets
      (fun layer => ∃ entries, item.1 = .table entries ∧ ShadowLayer.HeldBy entries layer)
      (ShadowLayer.Offends (path ++ [.index item.2]) item.1)
      (ShadowLayer.places (path ++ [.index item.2])) :=
    fun item _ => ShadowLayer.meets_ofData _ _
  show Checked.Meets (Checked.all (items.mapIdx _)) _ _ _
  rw [List.mapIdx_eq_zipIdx_map]
  refine (Checked.Meets.all each).congr (fun layers => ?_) (fun issue => ?_) ?_
  · conv_lhs => rw [← List.zipIdx_map_fst 0 items, List.forall₂_map_left_iff]
  · constructor
    · rintro ⟨i, item, there, offends⟩
      exact ⟨(item, i), List.mk_mem_zipIdx_iff_getElem?.2 there, offends⟩
    · rintro ⟨⟨item, i⟩, there, offends⟩
      exact ⟨i, item, List.mk_mem_zipIdx_iff_getElem?.1 there, offends⟩
  · rw [List.range_eq_range', ← List.zipIdx_map_snd 0 items, List.flatMap_map]

theorem meets_bundleOf (path : List PathStep) (entries : Entries Data) :
    (bundleOf path (.table entries)).Meets
      (List.Forall₂ (fun entry property => property.1 = entry.1 ∧ entry.2.Spells property.2)
        entries)
      (fun issue => ∃ entry ∈ entries, ¬ entry.2.IsScalar ∧
        issue = ⟨path ++ [.field entry.1], .notText⟩)
      (entries.keys.map fun key => path ++ [.field key]) := by
  have each : ∀ entry ∈ entries,
      Checked.Meets ((entry.2.asText (path ++ [.field entry.1])).map (entry.1, ·))
        (fun property => property.1 = entry.1 ∧ entry.2.Spells property.2)
        (fun issue => ¬ entry.2.IsScalar ∧ issue = ⟨path ++ [.field entry.1], .notText⟩)
        [path ++ [.field entry.1]] := by
    intro entry _
    refine (entry.2.meets_asText _).map fun property => ?_
    constructor
    · rintro ⟨same, spells⟩
      exact ⟨property.2, spells, Prod.ext same.symm rfl⟩
    · rintro ⟨_, spells, rfl⟩
      exact ⟨rfl, spells⟩
  refine (Checked.Meets.all each).congr (fun _ => .rfl) (fun _ => .rfl) ?_
  rw [Entries.keys, List.map_map, List.map_eq_flatMap]
  exact .refl _

end TokenValue

/-! ## Tokens -/

theorem TokenKind.form_eq_plain_iff {kind : TokenKind} :
    kind.form = .plain ↔ kind ∉ [.boxShadow, .composition, .typography] := by
  cases kind <;> decide

theorem TokenKind.form_eq_shadow_iff {kind : TokenKind} :
    kind.form = .shadow ↔ kind = .boxShadow := by
  cases kind <;> decide

theorem TokenKind.form_eq_bundle_iff {kind : TokenKind} :
    kind.form = .bundle ↔ kind ∈ [.composition, .typography] := by
  cases kind <;> decide

theorem offends_plain_iff {kind : TokenKind} {value : Data} {issue : Issue}
    (plain : kind ∉ [.boxShadow, .composition, .typography]) :
    Offends kind value issue ↔ ¬ value.IsScalar ∧ issue = ⟨[.field "value"], .notText⟩ := by
  constructor
  · intro offends
    cases offends with
    | notText _ other => exact ⟨other, rfl⟩
    | notTable bundle | property bundle =>
      exact absurd (List.mem_cons_of_mem _ bundle) plain
    | notList | layer | layers => exact absurd List.mem_cons_self plain
  · rintro ⟨other, rfl⟩
    exact .notText plain other

theorem offends_layer_iff {entries : Entries Data} {issue : Issue} :
    Offends .boxShadow (.table entries) issue ↔
      ShadowLayer.Offends [.field "value", .index 0] (.table entries) issue := by
  constructor
  · intro offends
    cases offends with
    | layer offends => exact offends
    | notText plain => exact absurd plain (by decide)
    | notList other => exact absurd rfl (other entries)
    | notTable bundle | property bundle => exact absurd bundle (by decide)
  · exact .layer

theorem offends_layers_iff {items : List Data} {issue : Issue} :
    Offends .boxShadow (.list items) issue ↔ ∃ i item, items[i]? = some item ∧
      ShadowLayer.Offends [.field "value", .index i] item issue := by
  constructor
  · intro offends
    cases offends with
    | layers there offends => exact ⟨_, _, there, offends⟩
    | notText plain => exact absurd plain (by decide)
    | notList _ other => exact absurd rfl (other items)
    | notTable bundle => exact absurd bundle (by decide)
  · rintro ⟨i, item, there, offends⟩
    exact .layers there offends

theorem offends_notList_iff {value : Data} {issue : Issue}
    (noTable : ∀ entries, value ≠ .table entries) (noList : ∀ items, value ≠ .list items) :
    Offends .boxShadow value issue ↔ issue = ⟨[.field "value"], .notList⟩ := by
  constructor
  · intro offends
    cases offends with
    | notList => rfl
    | layer => exact absurd rfl (noTable _)
    | layers => exact absurd rfl (noList _)
    | notText plain => exact absurd plain (by decide)
    | notTable bundle | property bundle => exact absurd bundle (by decide)
  · rintro rfl
    exact .notList noTable noList

theorem offends_bundle_iff {kind : TokenKind} {entries : Entries Data} {issue : Issue}
    (bundle : kind ∈ [.composition, .typography]) :
    Offends kind (.table entries) issue ↔ ∃ entry ∈ entries, ¬ entry.2.IsScalar ∧
      issue = ⟨[.field "value", .field entry.1], .notText⟩ := by
  constructor
  · intro offends
    cases offends with
    | property _ there other => exact ⟨_, there, other, rfl⟩
    | notTable _ other => exact absurd rfl (other entries)
    | notText plain => exact absurd (List.mem_cons_of_mem _ bundle) plain
    | notList | layer => exact absurd bundle (by decide)
  · rintro ⟨⟨key, value⟩, there, other, rfl⟩
    exact .property bundle there other

theorem offends_notTable_iff {kind : TokenKind} {value : Data} {issue : Issue}
    (bundle : kind ∈ [.composition, .typography]) (noTable : ∀ entries, value ≠ .table entries) :
    Offends kind value issue ↔ issue = ⟨[.field "value"], .notTable⟩ := by
  constructor
  · intro offends
    cases offends with
    | notTable => rfl
    | notText plain => exact absurd (List.mem_cons_of_mem _ bundle) plain
    | property => exact absurd rfl (noTable _)
    | notList | layer | layers => exact absurd bundle (by decide)
  · rintro rfl
    exact .notTable bundle noTable

namespace Token

variable {id name : String} {kind : TokenKind} {value : Data}

/-- The token has the id, the name and the kind, and it holds what the value does. -/
structure IsOf (id name : String) (kind : TokenKind) (value : Data) (token : Token) : Prop where
  id : token.id = id
  name : token.name = name
  kind : token.kind = kind
  holds : Holds value token.value

/-- A token is made of what its content is read from. -/
theorem meets_map {α : Type} {x : Checked α} {Value : α → Prop} {Bad : Issue → Prop}
    {places : List (List PathStep)} {make : α → TokenValue}
    {fits : ∀ a, (make a).form = kind.form} {distinct : ∀ a, (make a).propertyNames.Nodup}
    (meets : x.Meets Value Bad places)
    (holds : ∀ content, content.form = kind.form →
      (Holds value content ↔ ∃ a, Value a ∧ make a = content)) :
    Checked.Meets (x.map fun a => (⟨id, name, kind, make a, fits a, distinct a⟩ : Token))
      (IsOf id name kind value) Bad places := by
  refine meets.map fun token => ?_
  obtain ⟨id', name', kind', content, own, nodup⟩ := token
  constructor
  · rintro ⟨rfl, rfl, rfl, held⟩
    obtain ⟨a, isValue, rfl⟩ := (holds content own).1 held
    exact ⟨a, isValue, rfl⟩
  · rintro ⟨a, isValue, same⟩
    cases same
    exact ⟨rfl, rfl, rfl, (holds _ own).2 ⟨a, isValue, rfl⟩⟩

/-- No token is made of a value that no content of the kind is read from. -/
theorem meets_error {issue : Issue} {Bad : Issue → Prop}
    (none : ∀ content : TokenValue, content.form = kind.form → ¬ Holds value content)
    (only : ∀ other, Bad other ↔ other = issue) :
    Checked.Meets (.error [issue] : Checked Token) (IsOf id name kind value) Bad [issue.path] :=
  Checked.meets_error (fun token made => none _ (made.kind ▸ token.fits) made.holds) only

theorem meets_plain (fits : kind.form = .plain) :
    (ofData id name kind value).Meets (IsOf id name kind value) (Offends kind value)
      (places kind value) := by
  have made : ofData id name kind value = (value.asText [.field "value"]).map fun raw =>
      ⟨id, name, kind, .plain raw, fits.symm, .nil⟩ := by
    unfold ofData
    dsimp only
    split
    · rfl
    all_goals next other => cases fits.symm.trans other
  have held (content : TokenValue) (own : content.form = kind.form) :
      Holds value content ↔ ∃ raw, value.Spells raw ∧ TokenValue.plain raw = content := by
    rw [fits] at own
    constructor
    · rintro (spells | _ | _ | _)
      · exact ⟨_, spells, rfl⟩
      all_goals cases own
    · rintro ⟨raw, spells, rfl⟩
      exact .plain spells
  rw [made]
  refine (meets_map (value.meets_asText _) held).congr (fun _ => .rfl)
    (fun _ => offends_plain_iff (TokenKind.form_eq_plain_iff.1 fits)) ?_
  simp [places, fits]

theorem meets_shadow (id name : String) (value : Data) :
    (ofData id name .boxShadow value).Meets (IsOf id name .boxShadow value)
      (Offends .boxShadow value) (places .boxShadow value) := by
  have made : ofData id name .boxShadow value =
      (TokenValue.shadowOf [.field "value"] value).map fun layers =>
        ⟨id, name, .boxShadow, .shadow layers, rfl, .nil⟩ := rfl
  rw [made]
  rcases value.isTable_or with ⟨entries, rfl⟩ | noTable
  · refine (meets_map (TokenValue.meets_layer _ entries) fun content own => ?_).congr
      (fun _ => .rfl) (fun _ => offends_layer_iff) (.refl _)
    constructor
    · rintro (_ | held | _ | _)
      · cases own
      · exact ⟨_, ⟨_, rfl, held⟩, rfl⟩
      · cases own
    · rintro ⟨_, ⟨layer, rfl, held⟩, rfl⟩
      exact .layer held
  by_cases list : ∃ items, value = .list items
  · obtain ⟨items, rfl⟩ := list
    refine (meets_map (TokenValue.meets_layers _ items) fun content own => ?_).congr
      (fun _ => .rfl) (fun _ => offends_layers_iff) (.refl _)
    constructor
    · rintro (_ | _ | held | _)
      · cases own
      · exact ⟨_, held, rfl⟩
    · rintro ⟨layers, held, rfl⟩
      exact .layers held
  · have noList := not_exists.1 list
    obtain ⟨refused, place⟩ : TokenValue.shadowOf [.field "value"] value =
        .error [⟨[.field "value"], .notList⟩] ∧ places .boxShadow value = [[.field "value"]] := by
      cases value with
      | table entries => exact absurd rfl (noTable entries)
      | list items => exact absurd rfl (noList items)
      | _ => exact ⟨rfl, rfl⟩
    rw [refused, place]
    refine meets_error (fun content own => ?_) fun _ => offends_notList_iff noTable noList
    rintro (_ | _ | _ | _)
    · cases own
    · exact noTable _ rfl
    · exact noList _ rfl
    · cases own

/-- The keys of properties are those of the table that they are read from. -/
theorem keys_of_forall₂ {entries : Entries Data} {properties : Entries String}
    (each : List.Forall₂ (fun entry property => property.1 = entry.1 ∧
      entry.2.Spells property.2) entries properties) : properties.keys = entries.keys := by
  induction each with
  | nil => rfl
  | cons here _ ih => exact congrArg₂ (· :: ·) here.1 ih

theorem meets_bundle (fits : kind.form = .bundle) (keyed : value.Keyed) :
    (ofData id name kind value).Meets (IsOf id name kind value) (Offends kind value)
      (places kind value) := by
  have bundle := TokenKind.form_eq_bundle_iff.1 fits
  have made : ofData id name kind value =
      (TokenValue.bundleOf [.field "value"] value).map fun properties =>
        ⟨id, name, kind, .bundle (Entries.ofList properties), fits.symm,
          Entries.nodup_keys_ofList properties⟩ := by
    unfold ofData
    dsimp only
    split
    · next other => cases fits.symm.trans other
    · next other => cases fits.symm.trans other
    · rfl
  rw [made]
  rcases value.isTable_or with ⟨entries, rfl⟩ | noTable
  · have held (content : TokenValue) (own : content.form = kind.form) :
        Holds (.table entries) content ↔ ∃ properties,
          List.Forall₂ (fun entry property => property.1 = entry.1 ∧
            entry.2.Spells property.2) entries properties ∧
          TokenValue.bundle (Entries.ofList properties) = content := by
      -- Keys are distinct, so properties that are written one after another stay as they are.
      have same {properties : Entries String}
          (each : List.Forall₂ (fun entry property => property.1 = entry.1 ∧
            entry.2.Spells property.2) entries properties) :
          Entries.ofList properties = properties :=
        Entries.ofList_of_nodup (keys_of_forall₂ each ▸ keyed.nodup)
      rw [fits] at own
      constructor
      · rintro (_ | _ | _ | each)
        · cases own
        · cases own
        · exact ⟨_, each, by rw [same each]⟩
      · rintro ⟨properties, each, rfl⟩
        rw [same each]
        exact .bundle each
    refine (meets_map (TokenValue.meets_bundleOf _ entries) held).congr (fun _ => .rfl)
      (fun _ => offends_bundle_iff bundle) ?_
    simp [places, fits]
  · obtain ⟨refused, place⟩ : TokenValue.bundleOf [.field "value"] value =
        .error [⟨[.field "value"], .notTable⟩] ∧ places kind value = [[.field "value"]] := by
      unfold places
      rw [fits]
      cases value with
      | table entries => exact absurd rfl (noTable entries)
      | _ => exact ⟨rfl, rfl⟩
    rw [refused, place]
    refine meets_error (fun content own => ?_) fun _ => offends_notTable_iff bundle noTable
    rw [fits] at own
    rintro (_ | _ | _ | _)
    · cases own
    · exact noTable _ rfl
    · cases own
    · exact noTable _ rfl

/-- What becomes of a value: it makes a token that holds what it does, or each place that offends is
reported. -/
theorem meets_ofData (id name : String) (kind : TokenKind) (keyed : value.Keyed) :
    (ofData id name kind value).Meets (IsOf id name kind value) (Offends kind value)
      (places kind value) := by
  cases fits : kind.form with
  | plain => exact meets_plain fits
  | shadow =>
    obtain rfl := TokenKind.form_eq_shadow_iff.1 fits
    exact meets_shadow id name value
  | bundle => exact meets_bundle fits keyed

end Token

/-! ## Shapes and offending places -/

/-- What a token holds has the shape that its kind asks for. -/
theorem wellShaped_of_holds {kind : TokenKind} {value : Data} {content : TokenValue}
    (fits : content.form = kind.form) (holds : Holds value content) : WellShaped kind value := by
  cases holds with
  | plain spells => exact .plain (TokenKind.form_eq_plain_iff.1 fits.symm) ⟨_, spells⟩
  | layer held =>
    obtain rfl := TokenKind.form_eq_shadow_iff.1 fits.symm
    exact .layer held.shaped
  | layers each =>
    obtain rfl := TokenKind.form_eq_shadow_iff.1 fits.symm
    refine .layers fun item there => ?_
    obtain ⟨layer, entries, rfl, held⟩ := exists_forall₂_iff.1 ⟨_, each⟩ item there
    exact ⟨entries, rfl, held.shaped⟩
  | bundle each =>
    refine .bundle (TokenKind.form_eq_bundle_iff.1 fits.symm) fun entry there => ?_
    obtain ⟨property, -, spells⟩ := exists_forall₂_iff.1 ⟨_, each⟩ entry there
    exact ⟨property.2, spells⟩

theorem WellShaped.not_offends {kind : TokenKind} {value : Data} (shaped : WellShaped kind value)
    (issue : Issue) : ¬ Offends kind value issue := by
  cases shaped with
  | plain plain isScalar =>
    rw [offends_plain_iff plain]
    exact fun offends => offends.1 isScalar
  | layer shaped =>
    rw [offends_layer_iff]
    exact shaped.not_offends
  | layers each =>
    rw [offends_layers_iff]
    rintro ⟨i, item, there, offends⟩
    obtain ⟨entries, rfl, shaped⟩ := each item (List.mem_of_getElem? there)
    exact shaped.not_offends offends
  | bundle bundle each =>
    rw [offends_bundle_iff bundle]
    rintro ⟨entry, there, other, -⟩
    exact other (each entry there)

/-- No place is asked about twice. -/
theorem nodup_places {kind : TokenKind} {value : Data} (keyed : value.Keyed) :
    (places kind value).Nodup := by
  unfold places
  split
  · exact ShadowLayer.nodup_places _
  · next items _ =>
    refine List.nodup_flatMap.2 ⟨fun i _ => ShadowLayer.nodup_places _, ?_⟩
    -- The places of two layers begin with two indices.
    refine List.nodup_range.imp fun {i j} other place here there => other ?_
    have same := List.prefix_of_prefix_length_le (ShadowLayer.isPrefix_of_mem_places here)
      (ShadowLayer.isPrefix_of_mem_places there) (Nat.le_refl _)
    simpa using same.eq_of_length rfl
  · refine List.Nodup.map (fun key other same => ?_) keyed.nodup
    simpa using same
  · exact List.nodup_singleton _

/-- A kind takes the values of its shape and no others, and all that a token holds comes from its
value. Numbers may be given as texts, and a single layer of a shadow without a list. What is refused
has at least one issue, one for each place that offends and in the order of the places. The keys of
tables are distinct in all that is read (`Json.keyed_of_read`). -/
theorem Token.accepted_or_reported (id name : String) (kind : TokenKind) {value : Data}
    (keyed : value.Keyed) :
    ((∃ token, ofData id name kind value = .ok token) ↔ WellShaped kind value) ∧
      (∀ token, ofData id name kind value = .ok token ↔ IsOf id name kind value token) ∧
      ofData id name kind value.spelled = ofData id name kind value ∧
      (∀ entries, value = .table entries →
        ofData id name .boxShadow (.list [value]) = ofData id name .boxShadow value) ∧
      ∀ issues, ofData id name kind value = .error issues →
        issues ≠ [] ∧ (∀ issue, issue ∈ issues ↔ Offends kind value issue) ∧
          (issues.map (·.path)).Sublist (places kind value) ∧ (issues.map (·.path)).Nodup := by
  have meets := meets_ofData id name kind keyed
  refine ⟨⟨?_, fun shaped => ?_⟩, meets.ok_iff, ofData_spelled id name kind value, ?_, ?_⟩
  · rintro ⟨token, made⟩
    have isOf := (meets.ok_iff token).1 made
    exact wellShaped_of_holds (isOf.kind ▸ token.fits) isOf.holds
  · refine meets.reports (List.eq_nil_iff_forall_not_mem.2 fun issue there => ?_)
    exact shaped.not_offends issue ((meets.mem_iff issue).1 there)
  · rintro entries rfl
    exact ofData_singleton id name entries
  · intro issues refused
    obtain ⟨-, mem, ordered, reports⟩ := meets
    rw [refused] at mem ordered reports
    refine ⟨fun none => ?_, mem, ordered, ordered.nodup (nodup_places keyed)⟩
    obtain ⟨token, made⟩ := reports none
    cases made

/-- Two layers, of which the first lacks a field and has two that are wrong, and the second is
none. -/
def faultyLayers : Data :=
  .list [.table [("color", .null), ("type", .text "glow"), ("x", .integer 0), ("y", .integer 1),
    ("blur", .integer 2)], .text "none"]

theorem Token.accepted_or_reported_faultyLayers :
    faultyLayers.Keyed ∧
      ¬ WellShaped .boxShadow faultyLayers ∧
      ∀ issue, Offends .boxShadow faultyLayers issue ↔ issue ∈ ([
        ⟨[.field "value", .index 0, .field "color"], .notText⟩,
        ⟨[.field "value", .index 0, .field "type"], .unknownWord⟩,
        ⟨[.field "value", .index 0, .field "spread"], .missing⟩,
        ⟨[.field "value", .index 1], .notLayer⟩] : List Issue) := by
  have keyed : faultyLayers.Keyed := by
    refine .list fun item there => ?_
    rcases List.mem_pair.1 there with rfl | rfl
    · refine .table (by decide) fun entry inside => ?_
      simp only [List.mem_cons, List.not_mem_nil, or_false] at inside
      rcases inside with rfl | rfl | rfl | rfl | rfl <;> exact .scalar nofun nofun
    · exact .scalar nofun nofun
  have ⟨accepts, _, _, _, reports⟩ := accepted_or_reported "base.glow" "glow" .boxShadow keyed
  have ⟨_, mem, _, _⟩ := reports _ rfl
  refine ⟨keyed, fun shaped => ?_, fun issue => (mem issue).symm⟩
  obtain ⟨token, made⟩ := accepts.2 shaped
  cases made

end DesignTokens
