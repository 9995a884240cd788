import DesignTokens.Text.Split

/-!
# Paths

A path is a root and the components below it. Empty components and components that are a single dot
say nothing and are dropped when a path is read, so `a//b/./c/` and `a/b/c` are one path. Two dots
are kept, since what they mean depends on the disk.
-/

namespace DesignTokens

/-- Where a path starts. -/
inductive PathRoot where
  /-- In the working directory. -/
  | working
  /-- At the top of the disk. -/
  | top
  /-- At the top of the disk, written with exactly two slashes. -/
  | doubleTop
  deriving DecidableEq

/-- A path in normal form. -/
structure Path where
  root : PathRoot
  components : List String
  deriving DecidableEq

namespace Path

/-- The path of the working directory itself. -/
def here : Path := ⟨.working, []⟩

def rootOf : List Char → PathRoot
  | '/' :: '/' :: '/' :: _ => .top
  | '/' :: '/' :: _ => .doubleTop
  | '/' :: _ => .top
  | _ => .working

/-- Whether a component says nothing. -/
def isIdle (component : String) : Bool :=
  component == "" || component == "."

/-- Reads a path. -/
def ofText (text : String) : Path :=
  ⟨rootOf text.toList, (Text.parts '/' text).filter (!isIdle ·)⟩

def PathRoot.text : PathRoot → String
  | .working => ""
  | .top => "/"
  | .doubleTop => "//"

/-- A path as it is shown. -/
def text (path : Path) : String :=
  if path.root = .working ∧ path.components = [] then "."
  else PathRoot.text path.root ++ "/".intercalate path.components

/-- The path `other`, taken from the directory `base`. A path with a root of its own replaces
`base`. -/
def join (base other : Path) : Path :=
  if other.root = .working then ⟨base.root, base.components ++ other.components⟩ else other

instance : Append Path := ⟨join⟩

/-- The directory that a path is in. A path without components is its own parent. -/
def parent (path : Path) : Path :=
  ⟨path.root, path.components.dropLast⟩

/-- The paths that a component and those after it lead to, below the components `before`. -/
def wayFrom (root : PathRoot) (before : List String) : List String → List Path
  | [] => []
  | component :: rest =>
    ⟨root, before ++ [component]⟩ :: wayFrom root (before ++ [component]) rest

/-- The directories on the way to a path, outermost first, and the path itself. -/
def way (path : Path) : List Path :=
  wayFrom path.root [] path.components

/-- The place that components lead to from the place `before`, when two dots take the last name
away. -/
def settled (before : List String) : List String → List String
  | [] => before
  | ".." :: rest => settled before.dropLast rest
  | name :: rest => settled (before ++ [name]) rest

/-- The place that a path leads to, taken from a working directory. -/
def place (working : List String) (path : Path) : List String :=
  settled (if path.root = .working then working else []) path.components

/-- The last component, or nothing. -/
def name (path : Path) : String :=
  path.components.getLast?.getD ""

/-- A name cut before its last dot, unless that dot is the first or the last character of the name.
The second part starts with the dot, or is empty. -/
def splitSuffix (name : String) : String × String :=
  let chars := name.toList
  let afterDot := chars.reverse.takeWhile (· ≠ '.')
  let stem := chars.take (chars.length - afterDot.length - 1)
  if afterDot.length < chars.length ∧ afterDot ≠ [] ∧ stem ≠ [] then
    (String.ofList stem, String.ofList ('.' :: afterDot.reverse))
  else (name, "")

/-- The ending of the last component, with its dot. -/
def suffix (path : Path) : String :=
  (splitSuffix path.name).2

example : (ofText "a//b/./c/").text = "a/b/c" := by decide +kernel
example : (ofText "a/c.d.json").suffix = ".json" := by decide +kernel
example : (ofText "a/.json").suffix = "" := by decide +kernel

end Path

end DesignTokens
