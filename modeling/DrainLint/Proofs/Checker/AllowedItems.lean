import DrainLint.Proofs.Checker.Findings
import DrainLint.Proofs.Grammar.MembersItems

/-! # Items that allow the lint

An attribute `#[allow(..)]` or `#[expect(..)]` in front of a member of the crate, of a module, of an
implementation or of a trait holds back what is found in that member.  An item in the place of a
statement loses the attributes in front of it, and what is found there is told.

- `Attribute.Names`: attributes that allow or expect a lint by one of its names;
- `Attribute.allows_of_names`: they are understood;
- `Suppressions.suppresses_of_allowed`: what lies in an item that allows the lint is suppressed;
- `Runner.run_silent_in_allowed`: a run is silent on the members that allow the lint;
- `Runner.run_tells_in_allowed_statement`: and not on an item among statements.
-/

namespace DrainLint

open Hir Peg Grammar Text

/-! ## Attributes that name a lint -/

/-- A text with spaces around it, without them. -/
theorem trim_framed {before middle after : List Char} {first last : Char}
    (leading : ∀ c ∈ before, isSpace c = true) (trailing : ∀ c ∈ after, isSpace c = true)
    (starts : isSpace first = false) (ends : isSpace last = false) :
    trim (before ++ (first :: middle ++ [last]) ++ after) = first :: middle ++ [last] := by
  -- Blanks are dropped up to the first character, and from the end up to the last one.
  have fromLeft : (before ++ (first :: middle ++ [last]) ++ after).dropWhile isSpace =
      first :: middle ++ [last] ++ after := by
    rw [List.append_assoc, List.dropWhile_append_of_pos leading, List.cons_append, List.cons_append,
      List.dropWhile_cons_of_neg (by simp [starts])]
  have reversed : (first :: middle ++ [last] ++ after).reverse =
      after.reverse ++ last :: (first :: middle).reverse := by simp
  rw [trim, fromLeft, trimEnd, reversed,
    List.dropWhile_append_of_pos fun c listed => trailing c (List.mem_reverse.mp listed),
    List.dropWhile_cons_of_neg (by simp [ends])]
  simp

namespace Hir.Attribute

/-- An attribute that allows or expects what stands between its parentheses. -/
def Lists (attr : Attribute) (arguments : List Char) : Prop :=
  ∃ word ∈ ["allow", "expect"], ∃ before between after : List Char,
    (∀ c ∈ before ++ between ++ after, isSpace c = true) ∧
    attr.text = "#[".toList ++
      (before ++ (word.toList ++ between ++ '(' :: (arguments ++ [')'])) ++ after) ++ [']']

/-- An attribute that allows or expects a lint, by one of its names under a known tool. -/
def Names (attr : Attribute) (lint : String) : Prop :=
  ∃ arguments, attr.Lists arguments ∧ ∃ part ∈ splitOn ',' arguments, ∃ tool ∈ lintTools,
    ∃ name ∈ Suppressions.lintNames lint, trim part = tool.toList ++ "::".toList ++ name.toList

variable {attr : Attribute} {arguments : List Char}

theorem beforeLast_snoc (c : Char) (cs : List Char) : beforeLast c (cs ++ [c]) = cs := by
  simp [beforeLast]

/-- The body of an attribute, if the text between its brackets is framed by spaces. -/
theorem body_eq {inside : List Char} (written : attr.text = "#[".toList ++ inside ++ [']']) :
    attr.body = .ok (trim inside) := by
  have opened : afterFirst? '[' attr.text = some (inside ++ [']']) := by
    rw [written]
    rfl
  have closed : attr.text.contains ']' = true := by simp [written]
  simp only [body, opened, closed, if_true, beforeLast_snoc]

theorem lintArguments?_eq {word : String} (isWord : word ∈ ["allow", "expect"])
    {between : List Char} (blank : ∀ c ∈ between, isSpace c = true) :
    lintArguments? (word.toList ++ between ++ '(' :: (arguments ++ [')'])) = some arguments := by
  have skipped : (between ++ '(' :: (arguments ++ [')'])).dropWhile isSpace =
      '(' :: (arguments ++ [')']) := by
    rw [List.dropWhile_append_of_pos blank]
    rfl
  have afterWord :
      ((afterWord? "allow" (word.toList ++ between ++ '(' :: (arguments ++ [')']))).orElse
        fun _ => afterWord? "expect" (word.toList ++ between ++ '(' :: (arguments ++ [')']))) =
          some (between ++ '(' :: (arguments ++ [')'])) := by
    simp only [List.mem_cons, List.not_mem_nil, or_false] at isWord
    rcases isWord with rfl | rfl <;> rfl
  simp only [lintArguments?, afterWord, Option.bind_eq_bind, Option.bind_some, skipped]
  simp

theorem trim_listing {word : String} (isWord : word ∈ ["allow", "expect"])
    {before between after : List Char} (leading : ∀ c ∈ before, isSpace c = true)
    (trailing : ∀ c ∈ after, isSpace c = true) :
    trim (before ++ (word.toList ++ between ++ '(' :: (arguments ++ [')'])) ++ after) =
      word.toList ++ between ++ '(' :: (arguments ++ [')']) := by
  obtain ⟨first, rest, spelled, starts⟩ :
      ∃ first rest, word.toList = first :: rest ∧ isSpace first = false := by
    simp only [List.mem_cons, List.not_mem_nil, or_false] at isWord
    rcases isWord with rfl | rfl <;> exact ⟨_, _, rfl, by decide⟩
  have split : word.toList ++ between ++ '(' :: (arguments ++ [')']) =
      first :: (rest ++ between ++ '(' :: arguments) ++ [')'] := by simp [spelled]
  rw [split]
  exact trim_framed leading trailing starts (by decide)

theorem lintsAllowed_of_lists (lists : attr.Lists arguments) :
    attr.lintsAllowed = (splitOn ',' arguments).filterMap lintName? := by
  obtain ⟨word, isWord, before, between, after, blank, written⟩ := lists
  simp only [List.mem_append, or_imp, forall_and] at blank
  obtain ⟨⟨leading, inner⟩, trailing⟩ := blank
  have body : attr.body = .ok (word.toList ++ between ++ '(' :: (arguments ++ [')'])) := by
    rw [body_eq written, trim_listing isWord leading trailing]
  simp only [lintsAllowed, body, lintArguments?_eq isWord inner]

theorem lintName?_eq {part : List Char} {tool name : String} (isTool : tool ∈ lintTools)
    (isName : name ∈ Suppressions.lintNames Lint.lintName)
    (written : trim part = tool.toList ++ "::".toList ++ name.toList) :
    lintName? part = some name := by
  have names : Suppressions.lintNames Lint.lintName =
    ["while_pop_unwrap", "manual_while_let_some", "style", "all"] := by decide
  rw [names] at isName
  simp only [lintTools, List.mem_cons, List.not_mem_nil, or_false] at isTool isName
  rw [lintName?, written]
  -- The tools and the names are few, and the text is known for each pair of them.
  rcases isTool with rfl | rfl <;> rcases isName with rfl | rfl | rfl | rfl <;> decide +kernel

/-- An attribute that names the lint allows it. -/
theorem allows_of_names (names : attr.Names Lint.lintName) :
    Suppressions.allows attr.lintsAllowed Lint.lintName = true := by
  obtain ⟨arguments, lists, part, isPart, tool, isTool, name, isName, written⟩ := names
  have understood := lintName?_eq isTool isName written
  rw [Suppressions.allows, List.any_eq_true]
  refine ⟨name, ?_, List.contains_iff_mem.mpr isName⟩
  rw [lintsAllowed_of_lists lists]
  exact List.mem_filterMap.mpr ⟨part, isPart, understood⟩

end Hir.Attribute

/-! ## Regions that allow the lint -/

theorem Hir.Node.child_of_mem_members {node : Node} {item : Item} (member : item ∈ node.members) :
    .item item ∈ node.children := by
  unfold Node.members Node.members? at member
  split at member
  · simpa [Node.children_eq, Node.fields] using member
  · simpa [Node.children_eq, Node.fields] using member
  · simpa [Node.children_eq, Node.fields] using member
  · simpa [Node.children_eq, Node.fields] using member
  · cases member

theorem Grammar.WrittenMember.attrs_of_mem {member : WrittenMember} {item : Item} {attr : Attribute}
    (marked : attr ∈ member.attrs) (listed : item ∈ member.items) : item.attrs = member.attrs := by
  have some_attr : member.attrs.isEmpty = false := by
    cases attrs : member.attrs with
    | nil => rw [attrs] at marked; cases marked
    | cons => rfl
  rw [WrittenMember.items, some_attr] at listed
  obtain ⟨bare, _, rfl⟩ := List.mem_map.mp listed
  cases bare <;> rfl

section

variable {source : SourceFile} {crate : Crate} {item : Item} {attr : Attribute}

/-- What lies in an item that allows the lint is suppressed once the file is read. -/
theorem Suppressions.suppresses_of_allowed (rules : Suppressions)
    (listed : Node.item item ∈ crate.walk) (marked : attr ∈ item.attrs)
    (allows : allows attr.lintsAllowed Lint.lintName = true) {diagnostic : Diagnostic} {span : Span}
    (here : diagnostic.location.file = source.name) (isLint : diagnostic.lint = Lint.lintName)
    (spanned : diagnostic.span? = some span) (inside : item.origin.span.contains span = true) :
    (rules.ofFile source crate).suppresses diagnostic = true := by
  have named : Suppressions.allows (item.attrs.flatMap Attribute.lintsAllowed) Lint.lintName =
      true := by
    obtain ⟨name, isName, known⟩ := List.any_eq_true.mp allows
    exact List.any_eq_true.mpr ⟨name, List.mem_flatMap.mpr ⟨attr, marked, isName⟩, known⟩
  have region : (source.name, item.origin.span, item.attrs.flatMap Attribute.lintsAllowed) ∈
      (rules.ofFile source crate).regions := by
    have kept : (item.attrs.flatMap Attribute.lintsAllowed).isEmpty = false := by
      cases names : item.attrs.flatMap Attribute.lintsAllowed with
      | nil => rw [names] at named; cases named
      | cons => rfl
    refine List.mem_append_right _ (List.mem_map.mpr ⟨_, List.mem_filterMap.mpr
      ⟨_, listed, ?_⟩, rfl⟩)
    simp only [allowingItem?, kept]
    rfl
  have held : (rules.ofFile source crate).suppressedByAttribute diagnostic = true := by
    have isSome : (diagnostic.lint != "") = true := by
      rw [isLint]
      decide
    rw [suppressedByAttribute, isSome, Bool.true_and, Bool.or_eq_true]
    refine .inr (List.any_eq_true.mpr ⟨_, region, ?_⟩)
    simp [here, spanned, isLint, inside, named]
  simp [suppresses, held]

end

namespace Runner

variable {runner : Runner} {source : SourceFile} {crate : Crate} {holder : Node}

/-- A run with the checkers of the program is silent on the members that allow the lint.  The members
of a node, wherever it stands in the file, are the ones that are written in their place, each with
the outer attributes in front of it; and in one of which an attribute allows or expects the lint, by
any of its names, no diagnostic lies. -/
theorem run_silent_in_allowed (builtin : runner.registry = .builtin) (rules : Suppressions)
    (parsed : source.parse = .ok crate) (listed : holder ∈ crate.walk) :
    ∃ members, MembersRead source.text holder members ∧
      holder.members = members.flatMap WrittenMember.items ∧
      ∀ member ∈ members, ∀ attr ∈ member.attrs, attr.Names Lint.lintName →
        ∀ item ∈ member.items, ∀ diagnostic ∈ (runner.run rules source).results.diagnostics,
          ∀ span, diagnostic.span? = some span → item.origin.span.contains span = false := by
  obtain ⟨members, read, same⟩ := source.parse_membersWritten parsed holder listed
  refine ⟨members, read, same, ?_⟩
  intro member isMember attr marked names item isItem diagnostic told span spanned
  -- The item is a node of the crate and has the attributes, so there is a region for it.
  have held : item ∈ holder.members := by
    rw [same]
    exact List.mem_flatMap.mpr ⟨member, isMember, isItem⟩
  have inCrate : Node.item item ∈ crate.walk := Node.mem_walk_trans listed
    (Node.mem_walk_of_child (Node.child_of_mem_members held) (Node.mem_walk_self _))
  have onItem : attr ∈ item.attrs := by rwa [WrittenMember.attrs_of_mem marked isItem]
  rcases finding_or_failure_of_mem_run builtin parsed told with
    ⟨header, finding, _, made, free⟩ | ⟨failure, rfl⟩
  · by_contra inside
    obtain ⟨_, rfl⟩ := Checker.DrainLoop.diagnosticOf_eq made
    have suppressed := rules.suppresses_of_allowed inCrate onItem
      (Attribute.allows_of_names names) rfl rfl spanned (by simpa using inside)
    have clash : true = false := suppressed.symm.trans free
    cases clash
  · cases spanned

/-- A file with a method that drains a vector by hand and is marked. -/
def allowedMemberFile : SourceFile := ⟨"member.rs",
  ("impl S \x7b #[allow(dead_code, clippy::style)] fn f(v: &mut Vec<u8>) \x7b " ++
    "while !v.is_empty() \x7b let x = v.pop().unwrap(); \x7d \x7d \x7d").toList⟩

theorem run_silent_in_allowed_memberFile : ∃ crate holder,
    ({} : Runner).registry = .builtin ∧ allowedMemberFile.parse = .ok crate ∧
    holder ∈ crate.walk ∧ holder ≠ .crate crate ∧ holder.members ≠ [] ∧
    ∃ members, MembersRead allowedMemberFile.text holder members ∧
      holder.members = members.flatMap WrittenMember.items ∧
      ∀ member ∈ members, ∀ attr ∈ member.attrs, attr.Names Lint.lintName →
        ∀ item ∈ member.items,
          ∀ diagnostic ∈ (run {} {} allowedMemberFile).results.diagnostics,
          ∀ span, diagnostic.span? = some span → item.origin.span.contains span = false := by
  have evaluated : allowedMemberFile.crateNoted?.any (fun crate =>
      crate.items.any fun item => !(Node.item item).members.isEmpty) = true := by decide +kernel
  obtain ⟨crate, parsed, checked⟩ := SourceFile.parse_of_noted evaluated
  obtain ⟨item, isItem, holds⟩ := List.any_eq_true.mp checked
  have held : item ∈ (Node.crate crate).members := isItem
  have listed : Node.item item ∈ crate.walk :=
    Node.mem_walk_of_child (Node.child_of_mem_members held) (Node.mem_walk_self _)
  have some_member : (Node.item item).members ≠ [] := by
    intro none
    rw [none] at holds
    cases holds
  exact ⟨crate, _, rfl, parsed, listed, by simp, some_member,
    run_silent_in_allowed rfl {} parsed listed⟩

/-! ## Items among statements -/

def allowText : List Char := "#[allow(clippy::while_pop_unwrap)]".toList

/-- A file with a function among statements that drains a vector by hand and is marked. -/
def allowedStatementFile : SourceFile := ⟨"statement.rs",
  "fn f() \x7b ".toList ++ allowText ++
    (" fn g(v: &mut Vec<u8>) \x7b while !v.is_empty() \x7b let x = v.pop().unwrap(); \x7d \x7d " ++
      "\x7d").toList⟩

/-- An item among statements right after the attribute, in which a loop drains a vector by hand. -/
def drainsAllowed (source : SourceFile) (resolver : Resolver) : Node → Bool
  | .stmt (.item _ item) =>
    (allowText ++ [' ']).isSuffixOf (source.text.take item.origin.span.lo) &&
      (Node.item item).walk.any (Lint.drainsOperand resolver)
  | _ => false

theorem allowText_names (span : Span) : Attribute.Names ⟨allowText, span⟩ Lint.lintName := by
  refine ⟨"clippy::while_pop_unwrap".toList,
    ⟨"allow", List.mem_cons_self, [], [], [], by simp, rfl⟩, "clippy::while_pop_unwrap".toList, ?_⟩
  exact ⟨by decide +kernel, "clippy", List.mem_cons_self, Lint.lintName, by decide,
    by decide +kernel⟩

/-- Rules without a comment, a region or an attribute of the file suppress nothing. -/
theorem suppresses_ofFile_of_none {diagnostic : Diagnostic}
    (comments : Suppressions.commentsOf source = []) (attrs : crate.attrs = [])
    (regions : crate.walk.filterMap Suppressions.allowingItem? = []) :
    (Suppressions.ofFile {} source crate).suppresses diagnostic = false := by
  simp [Suppressions.ofFile, Suppressions.addComments, Suppressions.addAttributes, comments, attrs,
    regions, Suppressions.suppresses, Suppressions.suppressedEverywhere,
    Suppressions.suppressedByComment, Suppressions.suppressedByAttribute,
    Suppressions.suppressedByPattern, Suppressions.covers]

/-- A run tells of a loop in an item among statements, right after an attribute that allows the
lint. -/
theorem run_tells_in_allowed_statement : ∃ crate origin item diagnostic span,
    allowedStatementFile.parse = .ok crate ∧ Node.stmt (.item origin item) ∈ crate.walk ∧
    allowText ++ [' '] <:+ allowedStatementFile.text.take item.origin.span.lo ∧
    (∀ place, Attribute.Names ⟨allowText, place⟩ Lint.lintName) ∧
    diagnostic ∈ (run {} {} allowedStatementFile).results.diagnostics ∧
    diagnostic.span? = some span ∧ item.origin.span.contains span = true := by
  have evaluated : allowedStatementFile.crateNoted?.any (fun crate =>
      (Typing.inferCrate crate).fault?.isNone && crate.attrs.isEmpty &&
      (Suppressions.commentsOf allowedStatementFile).isEmpty &&
      (crate.walk.filterMap Suppressions.allowingItem?).isEmpty &&
      crate.walk.any (drainsAllowed allowedStatementFile
        (Typing.inferCrate crate).tables.resolver)) = true := by decide +kernel
  obtain ⟨crate, parsed, checked⟩ := SourceFile.parse_of_noted evaluated
  simp only [Bool.and_eq_true, Option.isNone_iff_eq_none, List.isEmpty_iff,
    List.any_eq_true] at checked
  obtain ⟨⟨⟨⟨faultless, attrs⟩, comments⟩, regions⟩, node, listed, drains⟩ := checked
  unfold drainsAllowed at drains
  split at drains
  · rename_i origin item
    simp only [Bool.and_eq_true, List.any_eq_true, List.isSuffixOf_iff_suffix] at drains
    obtain ⟨after, loop, below, drains⟩ := drains
    obtain ⟨_, cond, body, header, label, rfl, finding, found⟩ :=
      Lint.examine_of_drainsOperand drains
    have inItem : Node.item item ∈ crate.walk := Node.mem_walk_trans listed
      (Node.mem_walk_of_child (by simp [Node.children_eq, Node.fields]) (Node.mem_walk_self _))
    have inCrate := Node.mem_walk_trans inItem below
    have examined : (header, .found finding) ∈
        Lint.examineAll (Typing.inferCrate crate).tables.resolver crate :=
      List.mem_filterMap.mpr ⟨_, inCrate, by rw [← found]; rfl⟩
    obtain ⟨diagnostic, made, told⟩ := @mem_run_of_found {} {} allowedStatementFile crate
      (List.mem_singleton_self _) parsed faultless header finding examined
    obtain ⟨_, rfl⟩ := Checker.DrainLoop.diagnosticOf_eq made
    refine ⟨crate, origin, item, _, finding.popSpan, parsed, listed, after, allowText_names,
      told (suppresses_ofFile_of_none comments attrs regions), rfl, ?_⟩
    -- The loop lies in the item, and the place where it pops lies in the loop.
    have inLoop := ((Lint.examine_describes found).lands parsed inCrate).popInside
    have around := Node.span_covers (fun node inside =>
      SourceFile.parse_wellPlaced parsed node (Node.mem_walk_trans inItem inside)) below
    rw [Span.contains_iff] at inLoop ⊢
    exact ⟨Nat.le_trans around.1 inLoop.1, Nat.le_trans inLoop.2 around.2⟩
  · cases drains

end Runner
end DrainLint
