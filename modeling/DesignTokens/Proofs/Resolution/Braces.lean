import DesignTokens.Proofs.Resolution.Shadows

/-!
# Braces that stand around names only

A text is tidy when its references are all that braces are used for: with the references deleted,
no brace is left (`Reference.Tidy`). Tidy texts can be put in a row, since no brace of the one waits
for a brace of the other (`Tidy.not_crosses`, `Tidy.append`), and what becomes of a tidy text has no
brace when what its references become has none (`Tidy.braceFree_replaceIn`). A layer of a shadow is
laid out as a tidy text when its own texts are tidy (`tidy_of_raw`).
-/

namespace DesignTokens

namespace Reference

/-- No brace is in the text. -/
def BraceFree (text : String) : Prop :=
  '{' ∉ text.toList ∧ '}' ∉ text.toList

/-- When its references are deleted, no brace is left in the text. -/
def Tidy (text : String) : Prop :=
  BraceFree (replaceIn (fun _ => "") text)

instance (text : String) : Decidable (BraceFree text) :=
  inferInstanceAs (Decidable (_ ∧ _))

instance (text : String) : Decidable (Tidy text) :=
  inferInstanceAs (Decidable (BraceFree _))

theorem braceFree_append_iff {a b : String} :
    BraceFree (a ++ b) ↔ BraceFree a ∧ BraceFree b := by
  simp only [BraceFree, String.toList_append, List.mem_append, not_or]
  exact and_and_and_comm

section Replace

variable {text : String} {value : String → String} {c : Char}

/-- A character of a text with its references replaced is plain, or is in what replaces one. -/
theorem mem_replaceIn :
    c ∈ (replaceIn value text).toList ↔
      .char c ∈ pieces text.toList ∨ ∃ name ∈ names text, c ∈ (value name).toList := by
  rw [replaceIn, String.toList_ofList, replace, List.mem_flatMap]
  constructor
  · rintro ⟨piece, there, here⟩
    cases piece with
    | char d =>
      rw [List.mem_singleton.1 here]
      exact .inl there
    | reference name => exact .inr ⟨_, mem_names.2 ⟨name, there, rfl⟩, here⟩
  · rintro (there | ⟨_, named, here⟩)
    · exact ⟨_, there, List.mem_singleton_self _⟩
    · obtain ⟨name, there, rfl⟩ := mem_names.1 named
      exact ⟨_, there, here⟩

theorem tidy_iff :
    Tidy text ↔ .char '{' ∉ pieces text.toList ∧ .char '}' ∉ pieces text.toList := by
  simp [Tidy, BraceFree, mem_replaceIn]

end Replace

namespace Tidy

variable {text a b : String}

/-- What becomes of a tidy text has no brace when what its references become has none. -/
theorem braceFree_replaceIn (tidy : Tidy text) {value : String → String}
    (free : ∀ name ∈ names text, BraceFree (value name)) : BraceFree (replaceIn value text) := by
  obtain ⟨opening, closing⟩ := tidy_iff.1 tidy
  constructor <;> rw [mem_replaceIn]
  · rintro (there | ⟨name, named, here⟩)
    · exact opening there
    · exact (free name named).1 here
  · rintro (there | ⟨name, named, here⟩)
    · exact closing there
    · exact (free name named).2 here

/-- A tidy text without references has no brace. -/
theorem braceFree (tidy : Tidy text) (plain : occursIn text = false) : BraceFree text := by
  rwa [Tidy, replaceIn_of_not_occursIn plain] at tidy

/-- No brace of a tidy text waits for one behind the text. -/
theorem not_crosses (tidy : Tidy text) (behind : List Char) : ¬ Crosses text.toList behind := by
  rintro ⟨start, first, last, rest, opens, -, -, unopened, unclosed⟩
  have unopened : '{' ∉ first := fun there => unopened (by simp [there])
  have unclosed : '}' ∉ first := fun there => unclosed (by simp [there])
  have apart : ¬ Crosses start ('{' :: first) :=
    not_crosses_of_opening (List.not_mem_nil (a := '}'))
  -- Nothing closes the brace in the text itself, so it is left when the references are deleted.
  refine (tidy_iff.1 tidy).1 ?_
  rw [opens, pieces_append_of_not_crosses apart, pieces_of_unclosed unopened unclosed]
  simp

/-- Tidy texts in a row are tidy. -/
theorem append (tidy : Tidy a) (tidy' : Tidy b) : Tidy (a ++ b) := by
  have both : pieces (a ++ b).toList = pieces a.toList ++ pieces b.toList := by
    rw [String.toList_append, pieces_append_of_not_crosses (tidy.not_crosses _)]
  obtain ⟨opening, closing⟩ := tidy_iff.1 tidy
  obtain ⟨opening', closing'⟩ := tidy_iff.1 tidy'
  rw [tidy_iff, both]
  simp only [List.mem_append, not_or]
  exact ⟨⟨opening, opening'⟩, closing, closing'⟩

end Tidy

/-- A text without a brace is tidy. -/
theorem BraceFree.tidy {text : String} (free : BraceFree text) : Tidy text := by
  rwa [Tidy, replaceIn_of_not_occursIn (occursIn_of_plain free.1)]

theorem tidy_join {raws : List String} (tidy : ∀ raw ∈ raws, Tidy raw) :
    Tidy (String.join (raws.map (", " ++ ·))) := by
  have comma : Tidy ", " := by decide
  induction raws with
  | nil => simpa using (by decide : Tidy "")
  | cons raw rest ih =>
    obtain ⟨first, others⟩ := List.forall_mem_cons.1 tidy
    rw [List.map_cons, String.join_cons]
    exact (comma.append first).append (ih others)

/-- Tidy texts that are joined are tidy. -/
theorem tidy_intercalate {raws : List String} (tidy : ∀ raw ∈ raws, Tidy raw) :
    Tidy (", ".intercalate raws) := by
  cases raws with
  | nil => simpa using (by decide : Tidy "")
  | cons raw rest =>
    obtain ⟨first, others⟩ := List.forall_mem_cons.1 tidy
    rw [intercalate_cons]
    exact first.append (tidy_join others)

end Reference

open Reference

theorem separate_of_tidy {raws : List String} (tidy : ∀ raw ∈ raws, Tidy raw) : Separate raws := by
  induction raws with
  | nil => trivial
  | cons raw rest ih =>
    obtain ⟨first, others⟩ := List.forall_mem_cons.1 tidy
    exact ⟨first.not_crosses _, ih others⟩

/-! ## Texts of tokens -/

/-- The texts of a layer. -/
def ShadowLayer.texts (layer : ShadowLayer) : List String :=
  layer.color :: layer.fields

/-- The texts from which the single value of a token is computed. A bundle has none. -/
def Token.texts (token : Token) : List String :=
  match token.value with
  | .plain raw => [raw]
  | .shadow layers => layers.flatMap (·.texts)
  | .bundle _ => []

/-- The texts from which a token's value is computed are tidy. -/
def Token.Tidy (token : Token) : Prop :=
  ∀ text ∈ token.texts, Reference.Tidy text

instance (token : Token) : Decidable token.Tidy :=
  inferInstanceAs (Decidable (∀ text ∈ token.texts, Reference.Tidy text))

section Layers

variable {layer : ShadowLayer} {token : Option String} {raw : String}

theorem braceFree_rgbCall (free : BraceFree raw) : BraceFree (rgbCall raw) :=
  braceFree_append_iff.2 ⟨braceFree_append_iff.2 ⟨by decide, free⟩, by decide⟩

theorem tidy_rgbCall (tidy : Tidy raw) : Tidy (rgbCall raw) := by
  have opening : Tidy "rgb(" := by decide
  have closing : Tidy ")" := by decide
  exact (opening.append tidy).append closing

theorem braceFree_channels (channels : Channels) : BraceFree channels.text := by
  constructor <;> exact fun there => absurd (channels.chars_text _ there) (by decide)

/-- The color of a layer is laid out as a tidy text when it is one. -/
theorem BecomesColor.tidy {color : String} (laid : BecomesColor .ok color raw)
    (tidy : Tidy color) : Tidy raw := by
  cases laid with
  | literal _ _ => exact (braceFree_rgbCall (braceFree_channels _)).tidy
  | reference _ _ same =>
    cases same
    split
    · exact tidy
    · exact tidy_rgbCall tidy
  | other _ _ => exact tidy

theorem ShadowLayer.tidy_inset (layer : ShadowLayer) : Tidy layer.inset := by
  unfold ShadowLayer.inset
  split <;> decide

/-- A layer is laid out as a tidy text when its own texts are tidy. -/
theorem tidy_of_raw (tidy : ∀ text ∈ layer.texts, Tidy text) (laidOut : layer.raw token = .ok raw) :
    Tidy raw := by
  simp only [ShadowLayer.texts, ShadowLayer.fields, List.forall_mem_cons] at tidy
  obtain ⟨color, x, y, blur, spread, -⟩ := tidy
  have unit : Tidy "px " := by decide
  have field {text behind : String} (here : Tidy text) (there : Tidy behind) :
      Tidy (text ++ "px " ++ behind) := (here.append unit).append there
  obtain ⟨text, colored, rfl⟩ := ShadowLayer.raw_eq_ok_iff.1 laidOut
  rw [ShadowLayer.spell_eq]
  refine layer.tidy_inset.append (field x (field y (field blur (field spread ?_))))
  exact (ShadowLayer.colorText_eq_ok_iff.1 colored).tidy color

theorem tidy_of_raws {layers : List ShadowLayer} {raws : List String}
    (tidy : ∀ layer ∈ layers, ∀ text ∈ layer.texts, Tidy text)
    (laidOut : layers.mapM (·.raw token) = .ok raws) : ∀ raw ∈ raws, Tidy raw := by
  rw [Except.mapM_eq_ok_iff] at laidOut
  induction laidOut with
  | nil => exact List.forall_mem_nil _
  | cons first _ ih =>
    obtain ⟨here, others⟩ := List.forall_mem_cons.1 tidy
    exact List.forall_mem_cons.2 ⟨tidy_of_raw here first, ih others⟩

end Layers

end DesignTokens
