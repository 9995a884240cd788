import DesignTokens.Proofs.Rendering.CustomProperties

/-!
# Reading stylesheets back

Names and values go into a stylesheet as they are, also with semicolons, colons and braces in them.
Still its text can be read (`Stylesheet.read`): only the end of a block is a line `}`, only a class
opens with a dot, a name in kebab case holds no blank, and a declaration is one line. So what is
read off the text of a stylesheet are the tokens that it was made of, in their order
(`stylesheet_reads_back`).
-/

namespace DesignTokens

open Inquiry

namespace Stylesheet

/-! ## The reader -/

/-- What the text of a stylesheet says. The selector stands in front of custom properties only. -/
structure Contents where
  block : Option (String × List Declaration)
  rules : List ClassRule
  deriving DecidableEq

/-- What is said about some custom properties and classes. -/
def contentsOf (selector : String) (customProperties : List Declaration) (rules : List ClassRule) :
    Contents :=
  ⟨if customProperties.isEmpty then none else some (selector, customProperties), rules⟩

/-- Reads a declaration off a line, behind the text `lead`. The name ends at the first colon with a
blank behind it. -/
def readDeclaration (lead line : List Char) : Option Declaration := do
  let inner ← (← line.dropPrefix? lead).dropSuffix? [';']
  let (name, value) ← inner.dropInfix? [':', ' ']
  return ⟨String.ofList name, String.ofList value⟩

/-- Reads the lines of a block between the end of the block before it and its own end: an empty
line, the line that opens the block, and its declarations. -/
def readBlock (lead : List Char) : List (List Char) → Option (List Char × List Declaration)
  | [] :: opening :: lines => do
    return (← opening.dropSuffix? [' ', '{'], ← lines.mapM (readDeclaration lead))
  | _ => none

/-- Reads a class. -/
def readRule (lines : List (List Char)) : Option ClassRule := do
  let (opening, declarations) ← readBlock [' ', ' '] lines
  return ⟨String.ofList (← opening.dropPrefix? ['.']), declarations⟩

/-- The lines of a block are those of a class. -/
def isRule : List (List Char) → Bool
  | _ :: opening :: _ => opening.head? == some '.'
  | _ => false

/-- Reads the blocks. The first of them is that of the custom properties, unless it is a class. -/
def readBlocks : List (List (List Char)) → Option Contents
  | [] => some ⟨none, []⟩
  | first :: rest =>
    if isRule first then do return ⟨none, ← (first :: rest).mapM readRule⟩
    else do
      let (selector, customProperties) ← readBlock [' ', ' ', '-', '-'] first
      return ⟨some (String.ofList selector, customProperties), ← rest.mapM readRule⟩

/-- Reads a stylesheet. Behind the last block there is one empty line. -/
def read (text : String) : Option Contents :=
  match text.toList.splitOn '\n' with
  | first :: lines =>
    let blocks := lines.splitOn ['}']
    if first = header.toList ∧ blocks.getLast? = some [[]] then readBlocks blocks.dropLast else none
  | [] => none

/-! ## Lines -/

section Lines

variable {lead name value : List Char}

/-- The first colon with a blank behind it is the one behind a name without blanks. -/
theorem dropInfix?_name (noBlank : ' ' ∉ name) (value : List Char) :
    (name ++ [':', ' '] ++ value).dropInfix? [':', ' '] = some (name, value) := by
  refine List.dropInfix?_eq_some_iff.2 ⟨⟨_, rfl, beq_self_eq_true _⟩, ?_⟩
  rintro front _ behind same isColon
  cases beq_iff_eq.1 isColon
  -- Up to the blank there are as many characters at least as in the name.
  have first : name ++ [':'] ++ ' ' :: value = front ++ [':'] ++ ' ' :: behind := by
    simpa using same
  rcases Text.append_eq_append_cons first with ⟨middle, within, -⟩ | ⟨middle, longer, -⟩
  · have there : ' ' ∈ name ++ [':'] := by rw [within]; simp
    exact absurd there (by simp [noBlank])
  · have length := congrArg List.length longer
    simp only [List.length_append, List.length_singleton] at length
    omega

/-- The line of a declaration behind the text `lead`. -/
def lineBehind (lead : List Char) (d : Declaration) : List Char :=
  lead ++ (d.name.toList ++ [':', ' '] ++ d.value.toList ++ [';'])

theorem toList_customPropertyLine (d : Declaration) :
    (customPropertyLine d).toList = lineBehind [' ', ' ', '-', '-'] d := by
  unfold customPropertyLine lineBehind
  simp [toString]

theorem toList_propertyLine (d : Declaration) :
    (propertyLine d).toList = lineBehind [' ', ' '] d := by
  unfold propertyLine lineBehind
  simp [toString]

/-- A declaration of one line, with a name that holds no blank. -/
structure Legible (d : Declaration) : Prop where
  noBlank : ' ' ∉ d.name.toList
  name : '\n' ∉ d.name.toList
  value : '\n' ∉ d.value.toList

theorem readDeclaration_lineBehind {d : Declaration} (legible : Legible d) (lead : List Char) :
    readDeclaration lead (lineBehind lead d) = some d := by
  have front := List.dropPrefix?_append_of_beq
    (d.name.toList ++ [':', ' '] ++ d.value.toList ++ [';']) (beq_self_eq_true lead)
  have behind : (d.name.toList ++ [':', ' '] ++ d.value.toList ++ [';']).dropSuffix? [';'] =
      some (d.name.toList ++ [':', ' '] ++ d.value.toList) :=
    List.dropSuffix?_eq_some_iff.2 ⟨_, rfl, beq_self_eq_true _⟩
  unfold readDeclaration lineBehind
  simp only [front, behind, dropInfix?_name legible.noBlank, Option.bind_eq_bind,
    Option.bind_some, String.ofList_toList]
  rfl

end Lines

/-! ## Blocks -/

/-- The lines of a block with the empty line in front of it and without the line that ends it. -/
def blockLines (lead opening : List Char) (declarations : List Declaration) : List (List Char) :=
  [] :: (opening ++ [' ', '{']) :: declarations.map (lineBehind lead)

/-- A traversal reads back what was written one by one. -/
theorem mapM_map_eq_some {α β : Type} {f : α → β} {g : β → Option α} {xs : List α}
    (back : ∀ x ∈ xs, g (f x) = some x) : (xs.map f).mapM g = some xs := by
  induction xs with
  | nil => rfl
  | cons x rest ih =>
    obtain ⟨here, behind⟩ := List.forall_mem_cons.1 back
    rw [List.map_cons, List.mapM_cons, here, ih behind]
    rfl

theorem readBlock_blockLines {declarations : List Declaration}
    (legible : ∀ d ∈ declarations, Legible d) (lead opening : List Char) :
    readBlock lead (blockLines lead opening declarations) = some (opening, declarations) := by
  have opens : (opening ++ [' ', '{']).dropSuffix? [' ', '{'] = some opening :=
    List.dropSuffix?_eq_some_iff.2 ⟨_, rfl, beq_self_eq_true _⟩
  have lines : (declarations.map (lineBehind lead)).mapM (readDeclaration lead) =
      some declarations :=
    mapM_map_eq_some fun d there => readDeclaration_lineBehind (legible d there) lead
  unfold readBlock blockLines
  simp only [opens, lines, Option.bind_eq_bind, Option.bind_some]
  rfl

/-- The lines of a class. -/
def blockOfRule (rule : ClassRule) : List (List Char) :=
  blockLines [' ', ' '] ('.' :: rule.name.toList) rule.declarations

theorem readRule_blockOfRule {rule : ClassRule} (legible : ∀ d ∈ rule.declarations, Legible d) :
    readRule (blockOfRule rule) = some rule := by
  have opens : ('.' :: rule.name.toList).dropPrefix? ['.'] = some rule.name.toList :=
    List.dropPrefix?_append_of_beq rule.name.toList (beq_self_eq_true ['.'])
  unfold readRule blockOfRule
  simp only [readBlock_blockLines legible, opens, Option.bind_eq_bind, Option.bind_some,
    String.ofList_toList]
  rfl

/-- What goes into a stylesheet can be told apart: no text holds a line end, no name of a
declaration a blank, and the selector is not that of a class. -/
structure AllLegible (sheet : Stylesheet) : Prop where
  selector : '\n' ∉ sheet.selector.toList
  notRule : sheet.selector.toList.head? ≠ some '.'
  customProperties : ∀ d ∈ sheet.customProperties, Legible d
  names : ∀ rule ∈ sheet.rules, '\n' ∉ rule.name.toList
  rules : ∀ rule ∈ sheet.rules, ∀ d ∈ rule.declarations, Legible d

/-- The blocks of a stylesheet. -/
def blocks (sheet : Stylesheet) : List (List (List Char)) :=
  (if sheet.customProperties.isEmpty then []
    else [blockLines [' ', ' ', '-', '-'] sheet.selector.toList sheet.customProperties]) ++
  sheet.rules.map blockOfRule

theorem readBlocks_blocks {sheet : Stylesheet} (legible : sheet.AllLegible) :
    readBlocks sheet.blocks =
      some (contentsOf sheet.selector sheet.customProperties sheet.rules) := by
  have rules : (sheet.rules.map blockOfRule).mapM readRule = some sheet.rules :=
    mapM_map_eq_some fun rule there => readRule_blockOfRule (legible.rules rule there)
  unfold blocks contentsOf
  cases none : sheet.customProperties.isEmpty with
  | true =>
    cases written : sheet.rules with
    | nil => rfl
    | cons rule rest =>
      rw [written] at rules
      have isRule : isRule (blockOfRule rule) = true := rfl
      simp only [if_true, List.nil_append, List.map_cons, readBlocks, isRule] at rules ⊢
      rw [rules]
      rfl
  | false =>
    have isBlock : isRule (blockLines [' ', ' ', '-', '-'] sheet.selector.toList
        sheet.customProperties) = false := by
      have other := legible.notRule
      unfold isRule blockLines
      refine beq_eq_false_iff_ne.2 ?_
      cases chars : sheet.selector.toList with
      | nil => exact nofun
      | cons c rest => rwa [chars] at other
    simp only [Bool.false_eq_true, if_false, List.singleton_append, readBlocks, isBlock,
      readBlock_blockLines legible.customProperties, rules, Option.bind_eq_bind, Option.bind_some,
      String.ofList_toList]
    rfl

/-! ## Texts -/

/-- Blocks that end with a line each, and lines behind them, are blocks with this line between
them. -/
theorem intercalate_concat {α : Type} (ending : α) (blocks : List (List α)) (last : List α) :
    [ending].intercalate (blocks ++ [last]) = blocks.flatMap (· ++ [ending]) ++ last := by
  induction blocks with
  | nil => simp
  | cons block rest ih =>
    have more : rest ++ [last] ≠ [] := List.append_ne_nil_of_right_ne_nil _ (List.cons_ne_nil _ _)
    rw [List.cons_append, List.intercalate_cons_of_ne_nil more, ih, List.flatMap_cons,
      List.append_assoc _ _ last]

/-- An empty line in front of each block and behind the last one is one behind each block and in
front of the first one. -/
theorem flatMap_behind {ending : List Char} {blocks : List (List (List Char))}
    (starts : ∀ block ∈ blocks, block.head? = some []) :
    [] :: blocks.flatMap (·.tail ++ [ending, []]) = blocks.flatMap (· ++ [ending]) ++ [[]] := by
  induction blocks with
  | nil => rfl
  | cons block rest ih =>
    obtain ⟨here, behind⟩ := List.forall_mem_cons.1 starts
    obtain ⟨lines, rfl⟩ : ∃ lines, block = [] :: lines := List.head?_eq_some_iff.1 here
    rw [List.flatMap_cons, List.flatMap_cons, List.append_assoc _ _ [[]], ← ih behind]
    simp

theorem head?_of_mem_blocks {sheet : Stylesheet} {block : List (List Char)}
    (there : block ∈ sheet.blocks) : block.head? = some [] := by
  rcases List.mem_append.1 there with there | there
  · split at there
    · cases there
    · rw [List.mem_singleton.1 there]
      rfl
  · obtain ⟨rule, -, rfl⟩ := List.mem_map.1 there
    rfl

theorem map_toList_block (lead : List Char) (opening : String) {declarations : List Declaration}
    {line : Declaration → String} (lines : ∀ d, (line d).toList = lineBehind lead d) :
    (block opening (declarations.map line)).map String.toList =
      (blockLines lead opening.toList declarations).tail ++ [['}']] := by
  unfold block blockLines
  simp [lines, Function.comp_def]

/-- The lines of a stylesheet are the header and its blocks, each with a line that ends it. -/
theorem map_toList_lines (sheet : Stylesheet) :
    sheet.lines.map String.toList =
      header.toList :: [['}']].intercalate (sheet.blocks ++ [[[]]]) := by
  have customProperties : sheet.customPropertyLines.map String.toList =
      (if sheet.customProperties.isEmpty then []
        else [blockLines [' ', ' ', '-', '-'] sheet.selector.toList
          sheet.customProperties]).flatMap (·.tail ++ [['}'], []]) := by
    unfold customPropertyLines
    split
    · rfl
    · rw [List.map_append, map_toList_block _ _ toList_customPropertyLine]
      simp
  have rules : (sheet.rules.flatMap ruleLines).map String.toList =
      (sheet.rules.map blockOfRule).flatMap (·.tail ++ [['}'], []]) := by
    rw [List.map_flatMap, List.flatMap_map]
    refine List.flatMap_congr fun rule _ => ?_
    unfold ruleLines blockOfRule
    rw [List.map_append, map_toList_block _ _ toList_propertyLine]
    simp
  rw [intercalate_concat, ← flatMap_behind fun _ => head?_of_mem_blocks]
  unfold lines blocks
  rw [List.map_append, List.map_append, customProperties, rules, List.flatMap_append]
  rfl

/-- What holds of the kinds of lines holds of all lines in the blocks of a stylesheet. -/
theorem forall_mem_blocks {sheet : Stylesheet} {P : List Char → Prop} (empty : P [])
    (opened : P (sheet.selector.toList ++ [' ', '{']))
    (declared : ∀ d ∈ sheet.customProperties, P (lineBehind [' ', ' ', '-', '-'] d))
    (named : ∀ rule ∈ sheet.rules, P ('.' :: rule.name.toList ++ [' ', '{']))
    (given : ∀ rule ∈ sheet.rules, ∀ d ∈ rule.declarations, P (lineBehind [' ', ' '] d)) :
    ∀ block ∈ sheet.blocks, ∀ line ∈ block, P line := by
  have inBlock {lead opening : List Char} {declarations : List Declaration}
      (opened : P (opening ++ [' ', '{'])) (each : ∀ d ∈ declarations, P (lineBehind lead d)) :
      ∀ line ∈ blockLines lead opening declarations, P line :=
    List.forall_mem_cons.2 ⟨empty, List.forall_mem_cons.2 ⟨opened, List.forall_mem_map.2 each⟩⟩
  intro block there
  rcases List.mem_append.1 there with there | there
  · split at there
    · cases there
    · rw [List.mem_singleton.1 there]
      exact inBlock opened declared
  · obtain ⟨rule, isRule, rfl⟩ := List.mem_map.1 there
    exact inBlock (named rule isRule) (given rule isRule)

/-- No line of a stylesheet holds a line end. -/
theorem lineEnd_not_mem {sheet : Stylesheet} (legible : sheet.AllLegible) :
    ∀ line ∈ sheet.lines.map String.toList, '\n' ∉ line := by
  have opening {text : List Char} (whole : '\n' ∉ text) : '\n' ∉ text ++ [' ', '{'] := by
    simp [whole]
  have declared {d : Declaration} (legible : Legible d) {lead : List Char} (whole : '\n' ∉ lead) :
      '\n' ∉ lineBehind lead d := by
    simp [lineBehind, whole, legible.name, legible.value]
  have inBlocks : ∀ block ∈ sheet.blocks, ∀ line ∈ block, '\n' ∉ line := by
    refine forall_mem_blocks List.not_mem_nil (opening legible.selector) ?_ ?_ ?_
    · exact fun d there => declared (legible.customProperties d there) (by decide)
    · intro rule there
      exact opening (by simp [legible.names rule there])
    · exact fun rule isRule d there => declared (legible.rules rule isRule d there) (by decide)
  rw [map_toList_lines, intercalate_concat]
  refine List.forall_mem_cons.2 ⟨by decide, List.forall_mem_append.2 ⟨?_, by simp⟩⟩
  intro line there
  obtain ⟨block, isBlock, inside⟩ := List.mem_flatMap.1 there
  rcases List.mem_append.1 inside with inside | ends
  · exact inBlocks block isBlock line inside
  · rw [List.mem_singleton.1 ends]
    decide

/-- The line that ends a block is in no block. -/
theorem ending_not_mem {sheet : Stylesheet} :
    ∀ block ∈ sheet.blocks ++ [[[]]], ['}'] ∉ block := by
  have opening (text : List Char) : text ++ [' ', '{'] ≠ ['}'] := by
    intro same
    have last := congrArg List.getLast? same
    rw [List.getLast?_append] at last
    have last : some '{' = some '}' := last
    exact absurd last (by decide)
  have apart : ∀ block ∈ sheet.blocks, ∀ line ∈ block, line ≠ ['}'] :=
    forall_mem_blocks (by decide) (opening _) (fun _ _ => by simp [lineBehind])
      (fun _ _ => opening _) (fun _ _ _ _ => by simp [lineBehind])
  refine List.forall_mem_append.2 ⟨fun block there ends => ?_, by simp⟩
  exact apart block there _ ends rfl

/-- What is in a stylesheet is read off its text. -/
theorem read_text {sheet : Stylesheet} (legible : sheet.AllLegible) :
    read sheet.text = some (contentsOf sheet.selector sheet.customProperties sheet.rules) := by
  have lines : sheet.text.toList.splitOn '\n' = sheet.lines.map String.toList := by
    unfold text
    rw [String.toList_intercalate]
    refine List.splitOn_intercalate '\n' (lineEnd_not_mem legible) ?_
    rw [map_toList_lines]
    exact List.cons_ne_nil _ _
  have ended : ([['}']].intercalate (sheet.blocks ++ [[[]]])).splitOn ['}'] =
      sheet.blocks ++ [[[]]] :=
    List.splitOn_intercalate _ ending_not_mem
      (List.append_ne_nil_of_right_ne_nil _ (List.cons_ne_nil _ _))
  unfold read
  rw [lines, map_toList_lines]
  dsimp only
  rw [ended, List.getLast?_concat, List.dropLast_concat, if_pos ⟨rfl, rfl⟩,
    readBlocks_blocks legible]

end Stylesheet

/-! ## What tokens add -/

/-- The class is that of the token, with the values of its properties. -/
structure ClassesToken (library : Library) (s : Substitution) (t : Token) (rule : ClassRule) :
    Prop where
  name : rule.name = kebab t.name
  declarations : ∃ bundle properties, t.value = .bundle bundle ∧
    outcome library (s.properties t bundle) = .ok properties ∧
    rule.declarations = properties.map fun (name, value) => ⟨kebab name, value⟩

/-- No text that a token puts into a stylesheet holds a line end. -/
structure OneLine (library : Library) (s : Substitution) (t : Token) : Prop where
  name : '\n' ∉ t.name.toList
  value : ∀ value, outcome library (s.cssValue t) = .ok value → '\n' ∉ value.toList
  properties : ∀ bundle properties, t.value = .bundle bundle →
    outcome library (s.properties t bundle) = .ok properties →
    ∀ p ∈ properties, '\n' ∉ p.1.toList ∧ '\n' ∉ p.2.toList

section Tokens

variable {library : Library} {s : Substitution} {selector : String} {tokens : List Token}
  {sheet : Stylesheet}

theorem Contribution.classes_of_ofToken {t : Token} {c : Contribution}
    (computed : outcome library (ofToken s t) = .ok c) :
    t.isBundle = false ∧ c.rule? = none ∨
      t.isBundle = true ∧ ∃ rule, c.rule? = some rule ∧ ClassesToken library s t rule := by
  unfold ofToken at computed
  unfold Token.isBundle
  cases form : t.value with
  | bundle bundle =>
    rw [form] at computed
    obtain ⟨properties, here, last⟩ := outcome_bind_eq_ok.1 computed
    cases last
    exact .inr ⟨rfl, _, rfl, rfl, bundle, properties, form, here, rfl⟩
  | plain raw =>
    rw [form] at computed
    obtain ⟨_, -, last⟩ := outcome_bind_eq_ok.1 computed
    cases last
    exact .inl ⟨rfl, rfl⟩
  | shadow layers =>
    rw [form] at computed
    obtain ⟨_, -, last⟩ := outcome_bind_eq_ok.1 computed
    cases last
    exact .inl ⟨rfl, rfl⟩

/-- A stylesheet has one class for each token that is a bundle, in order. -/
theorem Stylesheet.forall₂_classes
    (computed : outcome library (ofTokens s selector tokens) = .ok sheet) :
    List.Forall₂ (ClassesToken library s) (tokens.filter (·.isBundle)) sheet.rules := by
  obtain ⟨contributions, traversed, last⟩ := outcome_bind_eq_ok.1 computed
  cases last
  have each := outcome_mapM_eq_ok traversed
  clear traversed computed
  unfold ofContributions
  induction each with
  | nil => exact .nil
  | cons here _ ih =>
    rcases Contribution.classes_of_ofToken here with ⟨single, none⟩ | ⟨bundle, rule, some, classes⟩
    · simpa [single, none] using ih
    · simpa [bundle, some] using ⟨classes, ih⟩

/-- A name in kebab case holds no blank, and no line end that the name does not hold. -/
theorem legible_kebab {name value : String} (whole : '\n' ∉ name.toList)
    (plain : '\n' ∉ value.toList) : Stylesheet.Legible ⟨kebab name, value⟩ where
  noBlank there := ((isKebab_kebab name).plain _ there).2.2.1 rfl
  name there := by
    rcases mem_of_mem_kebab there with hyphen | inside | letter
    · exact absurd hyphen (by decide)
    · exact whole inside
    · exact absurd letter (by decide)
  value := plain

/-- What tokens of one line put into a stylesheet can be told apart. -/
theorem allLegible_of_oneLine (notRule : selector.toList.head? ≠ some '.')
    (whole : '\n' ∉ selector.toList) (each : ∀ t ∈ tokens, OneLine library s t)
    (computed : outcome library (Stylesheet.ofTokens s selector tokens) = .ok sheet) :
    sheet.AllLegible := by
  obtain ⟨rfl, declares⟩ := Stylesheet.forall₂_declares computed
  have classes := Stylesheet.forall₂_classes computed
  refine ⟨whole, notRule, fun d there => ?_, fun rule there => ?_, fun rule there d inside => ?_⟩
  · obtain ⟨t, isSingle, declared⟩ := exists_related declares there
    have oneLine := each t (List.mem_filter.1 isSingle).1
    obtain ⟨name, value⟩ := d
    cases declared.name
    exact legible_kebab oneLine.name (oneLine.value value declared.value)
  · obtain ⟨t, isBundle, classed⟩ := exists_related classes there
    have oneLine := each t (List.mem_filter.1 isBundle).1
    have empty : '\n' ∉ "".toList := by decide
    rw [classed.name]
    exact (legible_kebab oneLine.name empty).name
  · obtain ⟨t, isBundle, classed⟩ := exists_related classes there
    have oneLine := each t (List.mem_filter.1 isBundle).1
    obtain ⟨bundle, properties, form, computed, declarations⟩ := classed.declarations
    rw [declarations] at inside
    obtain ⟨property, isProperty, rfl⟩ := List.mem_map.1 inside
    obtain ⟨name, value⟩ := oneLine.properties bundle properties form computed property isProperty
    exact legible_kebab name value

end Tokens

/-- One reader reads back what tokens add to a stylesheet: the selector with the names and the
values of the tokens that have a single value, and nothing when there are none, and the classes of
the other tokens with their properties, each in the order of the tokens. It does so whatever the
names and the values hold, as long as each of them is one line. -/
theorem stylesheet_reads_back (library : Library) (method : Method) (theme : Option String)
    {selector : String} {tokens : List Token} {sheet : Stylesheet}
    (notRule : selector.toList.head? ≠ some '.') (whole : '\n' ∉ selector.toList)
    (each : ∀ t ∈ tokens, OneLine library (library.substitution method theme) t)
    (computed : outcome library
      (Stylesheet.ofTokens (library.substitution method theme) selector tokens) = .ok sheet) :
    ∃ declarations rules,
      List.Forall₂ (DeclaresToken library (library.substitution method theme))
        (tokens.filter (!·.isBundle)) declarations ∧
      List.Forall₂ (ClassesToken library (library.substitution method theme))
        (tokens.filter (·.isBundle)) rules ∧
      Stylesheet.read sheet.text = some (Stylesheet.contentsOf selector declarations rules) := by
  have legible := allLegible_of_oneLine notRule whole each computed
  obtain ⟨rfl, declares⟩ := Stylesheet.forall₂_declares computed
  exact ⟨_, _, declares, Stylesheet.forall₂_classes computed, Stylesheet.read_text legible⟩

/-! ## Texts that look like blocks -/

/-- A length whose text looks like the end of one block and the start of another. -/
def braceGap : Token := .spacing "s.gap" "gap: x" "1px; \x7d .card \x7b"

/-- A composition whose properties look like that too. -/
def braceCard : Token :=
  ⟨"s.card", "card", .composition, .bundle [("fontSize", "a: b;"), ("x: y", "\x7d .gap \x7b")], rfl,
    by decide⟩

def braceTokens : Library := .ofTokens [braceGap, braceCard] (by decide)

namespace braceTokens

theorem value_gap : outcome braceTokens
    ((braceTokens.substitution .static none).cssValue braceGap) = .ok "1px; \x7d .card \x7b" := by
  decide +kernel

theorem value_card : outcome braceTokens
    ((braceTokens.substitution .static none).cssValue braceCard) =
      .error (.resolve (.noSingleValue .composition "s.card")) := by
  rfl

theorem properties_card : outcome braceTokens
    ((braceTokens.substitution .static none).properties braceCard
      [("fontSize", "a: b;"), ("x: y", "\x7d .gap \x7b")]) =
      .ok [("fontSize", "a: b;"), ("x: y", "\x7d .gap \x7b")] := by
  decide +kernel

theorem oneLine : ∀ t ∈ braceTokens.tokens,
    OneLine braceTokens (braceTokens.substitution .static none) t := by
  have card : OneLine braceTokens (braceTokens.substitution .static none) braceCard := by
    refine ⟨by decide, fun value computed => ?_, ?_⟩
    · cases value_card.symm.trans computed
    · rintro _ properties ⟨⟩ computed
      cases properties_card.symm.trans computed
      decide
  refine List.forall_mem_cons.2 ⟨⟨by decide, ?_, nofun⟩, List.forall_mem_singleton.2 card⟩
  intro value computed
  cases value_gap.symm.trans computed
  decide

end braceTokens

/-- The length and the composition are read back as they are. -/
theorem stylesheet_reads_back_braces :
    (∀ t ∈ braceTokens.tokens, OneLine braceTokens (braceTokens.substitution .static none) t) ∧
      ∃ sheet, outcome braceTokens (Stylesheet.ofTokens (braceTokens.substitution .static none)
          ":root" braceTokens.tokens) = .ok sheet ∧
        Stylesheet.read sheet.text =
          some ⟨some (":root", [⟨"gap:-x", "1px; \x7d .card \x7b"⟩]),
            [⟨"card", [⟨"font-size", "a: b;"⟩, ⟨"x:-y", "\x7d .gap \x7b"⟩]⟩]⟩ := by
  have computed : outcome braceTokens (Stylesheet.ofTokens (braceTokens.substitution .static none)
      ":root" braceTokens.tokens) = .ok ⟨":root", [⟨"gap:-x", "1px; \x7d .card \x7b"⟩],
        [⟨"card", [⟨"font-size", "a: b;"⟩, ⟨"x:-y", "\x7d .gap \x7b"⟩]⟩]⟩ := by
    decide +kernel
  refine ⟨braceTokens.oneLine, _, computed, ?_⟩
  obtain ⟨declarations, rules, declares, classes, reads⟩ :=
    stylesheet_reads_back braceTokens .static none (by decide) (by decide) braceTokens.oneLine
      computed
  rw [reads]
  have singles : braceTokens.tokens.filter (!·.isBundle) = [braceGap] := rfl
  have bundles : braceTokens.tokens.filter (·.isBundle) = [braceCard] := rfl
  rw [singles] at declares
  rw [bundles] at classes
  cases declares with
  | @cons _ d _ _ declared none =>
  cases none
  cases classes with
  | @cons _ rule _ _ classed none =>
  cases none
  obtain ⟨_, value⟩ := d
  cases declared.name
  cases braceTokens.value_gap.symm.trans declared.value
  obtain ⟨_, written⟩ := rule
  cases classed.name
  obtain ⟨_, properties, ⟨⟩, computed', declarations⟩ := classed.declarations
  cases braceTokens.properties_card.symm.trans computed'
  cases declarations
  decide +kernel

end DesignTokens
