import DesignTokens.Data.Issue
import DesignTokens.Reference
import DesignTokens.Token.Kind

/-!
# Tokens

A token has a name inside its set, an id that is unique in its library, a kind, and a value of the
form that the kind asks for. `Token.ofData` builds a token from a data value. Numbers are kept as
they are written, booleans and nulls are refused, and every offending place is reported.
-/

namespace DesignTokens

/-- Which side of the box a shadow falls on. -/
inductive Placement where
  | inner
  | drop
  deriving DecidableEq

def Placement.word : Placement → String
  | .inner => "innerShadow"
  | .drop => "dropShadow"

/-- The placement of a word. -/
def Placement.ofWord? (word : String) : Option Placement :=
  [Placement.inner, .drop].find? (·.word == word)

/-- A layer of a shadow. Each text may hold references. -/
structure ShadowLayer where
  color : String
  placement : Placement
  x : String
  y : String
  blur : String
  spread : String
  deriving DecidableEq

/-- The value of a token, in one of three forms. -/
inductive TokenValue where
  | plain (raw : String)
  | shadow (layers : List ShadowLayer)
  | bundle (properties : Entries String)
  deriving DecidableEq

def TokenValue.form : TokenValue → Form
  | .plain _ => .plain
  | .shadow _ => .shadow
  | .bundle _ => .bundle

/-- The names of the properties of a bundle. -/
def TokenValue.propertyNames : TokenValue → List String
  | .bundle properties => properties.keys
  | _ => []

/-- A design token. -/
structure Token where
  id : String
  name : String
  kind : TokenKind
  value : TokenValue
  /-- The value has the form of the kind. -/
  fits : value.form = kind.form
  /-- No property is there twice. -/
  distinct : value.propertyNames.Nodup
  deriving DecidableEq

namespace ShadowLayer

/-- The field that holds a layer's placement: `kind` when only that one is there, else `type`. -/
def placementField (entries : Entries Data) : String :=
  if entries.has "kind" && !entries.has "type" then "kind" else "type"

/-- A text or a number under a key. -/
def textField (path : List PathStep) (entries : Entries Data) (name : String) : Checked String :=
  let place := path ++ [.field name]
  match entries.get? name with
  | some value => value.asText place
  | none => .error [⟨place, .missing⟩]

/-- The placement of a layer. -/
def placementOf (path : List PathStep) (entries : Entries Data) : Checked Placement :=
  let name := placementField entries
  let place := path ++ [.field name]
  match entries.get? name with
  | none => .error [⟨place, .missing⟩]
  | some (.text word) =>
    match Placement.ofWord? word with
    | some placement => .ok placement
    | none => .error [⟨place, .unknownWord⟩]
  | some _ => .error [⟨place, .unknownWord⟩]

/-- A layer from the table at `path`. -/
def ofEntries (path : List PathStep) (entries : Entries Data) : Checked ShadowLayer :=
  let color := textField path entries "color"
  let placement := placementOf path entries
  let x := textField path entries "x"
  let y := textField path entries "y"
  let blur := textField path entries "blur"
  let spread := textField path entries "spread"
  match color, placement, x, y, blur, spread with
  | .ok color, .ok placement, .ok x, .ok y, .ok blur, .ok spread =>
    .ok ⟨color, placement, x, y, blur, spread⟩
  | color, placement, x, y, blur, spread =>
    .error (color.issues ++ placement.issues ++ x.issues ++ y.issues ++ blur.issues ++
      spread.issues)

/-- A layer from the value at `path`. -/
def ofData (path : List PathStep) : Data → Checked ShadowLayer
  | .table entries => ofEntries path entries
  | _ => .error [⟨path, .notLayer⟩]

end ShadowLayer

namespace TokenValue

/-- The layers of a shadow: a list of them, or a single one. -/
def shadowOf (path : List PathStep) : Data → Checked (List ShadowLayer)
  | .table entries => Checked.all [ShadowLayer.ofEntries (path ++ [.index 0]) entries]
  | .list items =>
    Checked.all (items.mapIdx fun i item => ShadowLayer.ofData (path ++ [.index i]) item)
  | _ => .error [⟨path, .notList⟩]

/-- The properties of a bundle. -/
def bundleOf (path : List PathStep) : Data → Checked (List (String × String))
  | .table entries =>
    Checked.all (entries.map fun (key, value) =>
      (value.asText (path ++ [.field key])).map (key, ·))
  | _ => .error [⟨path, .notTable⟩]

end TokenValue

namespace Token

/-- The token of a kind with a value, or every place where the value has the wrong shape. -/
def ofData (id name : String) (kind : TokenKind) (value : Data) : Checked Token :=
  let path := [PathStep.field "value"]
  match fits : kind.form with
  | .plain => (value.asText path).map fun raw => ⟨id, name, kind, .plain raw, fits.symm, .nil⟩
  | .shadow =>
    (TokenValue.shadowOf path value).map fun layers =>
      ⟨id, name, kind, .shadow layers, fits.symm, .nil⟩
  | .bundle =>
    (TokenValue.bundleOf path value).map fun properties =>
      ⟨id, name, kind, .bundle (Entries.ofList properties), fits.symm,
        Entries.nodup_keys_ofList properties⟩

/-- Whether the token is a bundle of properties and so has no single value. -/
def isBundle (token : Token) : Bool :=
  token.value.form = .bundle

end Token

end DesignTokens
