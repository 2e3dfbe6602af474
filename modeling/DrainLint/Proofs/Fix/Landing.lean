import DrainLint.Lint.LoopFix
import DrainLint.Proofs.Lint.Detection

/-! # Where a fix lands

The two edits of a fix replace the header of the loop and what takes the element, and nothing else.

- `applyAll_pair`: two edits in the order of the text replace their spans and leave the rest;
- `Node.InPlace.loop_bounds`: how the parts of a loop that is found lie to each other;
- `Finding.Lands`: a fix that is put together and spliced in the right places;
- `fix_lands`: the fix of every loop that is found in a file lands;
- `PopsInHeader`: the header that a fix means, and a receiver whose parentheses a fix loses.
-/

namespace DrainLint

/-! ## Two edits -/

namespace Edit

variable {first second : Edit}

theorem firstOverlap?_pair (starts : first.span.lo < second.span.lo)
    (apart : first.span.hi ≤ second.span.lo) : firstOverlap? [first, second] = none := by
  have sorted : sortedBySpan [first, second] = [first, second] := by
    unfold sortedBySpan
    apply List.mergeSort_of_pairwise
    simp [Span.before]
    omega
  have separate : first.collides second = false := by
    have different : first.span ≠ second.span := by
      intro same
      rw [same] at starts
      exact Nat.lt_irrefl _ starts
    simp [collides, Span.overlaps, different]
    omega
  simp [firstOverlap?, sorted, firstCollision?, separate]

/-- Two edits in the order of the text replace their spans and leave the rest. -/
theorem applyAll_pair (text : List Char) (starts : first.span.lo < second.span.lo) :
    applyAll text [first, second] =
      text.take first.span.lo ++ first.replacement.toList ++
        (text.take second.span.lo).drop first.span.hi ++ second.replacement.toList ++
          text.drop second.span.hi := by
  have sorted : sortedByStart [first, second] = [first, second] := by
    unfold sortedByStart
    apply List.mergeSort_of_pairwise
    simp
    omega
  rw [applyAll, sorted]
  simp [splice]

end Edit

namespace Lint

open Hir

/-! ## The parts of a loop -/

section

variable {origin : Origin} {cond : Expr} {body : Block} {header : Span} {label : Option String}
  {finding : Finding}

/-- The parts that a fix touches or reads, in their order in the text. -/
structure Finding.Ordered (finding : Finding) (loop : Span) : Prop where
  header : loop.lo ≤ finding.loopSpan.lo
  receiver : finding.loopSpan.lo < finding.receiverSpan.lo
  checked : finding.receiverSpan.hi ≤ finding.loopSpan.hi
  body : finding.loopSpan.hi ≤ finding.popSpan.lo
  popped : finding.popSpan.hi ≤ loop.hi
  pattern : ∀ pat, finding.form = .letStmt pat →
    finding.loopSpan.hi ≤ pat.origin.span.lo ∧ pat.origin.span.hi ≤ loop.hi

/-- In a loop that is well placed throughout, the parts of a finding are in order. -/
theorem Finding.Describes.ordered (describes : finding.Describes cond body header)
    (throughout : ∀ node ∈ (Node.expr (.whileLoop origin cond body header label)).walk,
      node.WellPlaced) : finding.Ordered origin.span := by
  obtain ⟨rfl, ⟨call, receiver, tests, receiverSpan⟩, first, rest, expr, listed, takes⟩ := describes
  have loop := throughout _ (Node.mem_walk_self _)
  have isCond : Node.expr cond ∈
      (Node.expr (.whileLoop origin cond body finding.loopSpan label)).children := by
    simp [Node.children_eq, Node.fields]
  have isBody : Node.expr (.block body) ∈
      (Node.expr (.whileLoop origin cond body finding.loopSpan label)).children := by
    simp [Node.children_eq, Node.fields]
  obtain ⟨starts, headed, tested, follows⟩ := loop.fields
  have bodyEnds : body.origin.span.hi ≤ origin.span.hi := (loop.children _ isBody).2.1
  have receiverInside : cond.origin.span.lo ≤ finding.receiverSpan.lo ∧
      finding.receiverSpan.hi ≤ cond.origin.span.hi := by
    rw [receiverSpan]
    exact Node.span_covers
      (fun node below => throughout node (Node.mem_walk_of_child isCond below))
      ((Node.code_sublist _).subset tests.receiver_mem)
  -- Everything in the first statement stands in the body, which starts after the header.
  have inBody : ∀ node ∈ (Node.stmt first).walk,
      body.origin.span.lo ≤ node.span.lo ∧ node.span.hi ≤ body.origin.span.hi := by
    intro node below
    have isFirst : Node.stmt first ∈ (Node.expr (.block body)).walk :=
      (Node.code_sublist _).subset (mem_code_of_mem_stmts (by rw [listed]; exact List.mem_cons_self))
    exact Node.span_covers
      (fun node below => throughout node (Node.mem_walk_of_child isBody below))
      (Node.mem_walk_trans isFirst below)
  obtain ⟨popped, isPopped, popSpan⟩ := takes.span_mem
  have poppedInside := inBody popped ((Node.code_sublist _).subset isPopped)
  rw [popSpan] at poppedInside
  refine ⟨starts, by omega, by omega, by omega, by omega, ?_⟩
  intro pat isLet
  rw [isLet] at takes
  have patInside := inBody (.pat pat) takes.pat_mem
  simp only [Node.span, Node.origin] at patInside
  omega

end

/-! ## The text after a fix -/

/-- The characters that the new header binds: the pattern of the `let` as it is written, or the
name of the element. -/
def PopForm.binding (form : PopForm) (source : SourceFile) : List Char :=
  match form with
  | .letStmt pat => source.slice pat.origin.span
  | .argument => "element".toList

/-- The characters that take the place of the popping statement or argument. -/
def PopForm.remainder : PopForm → List Char
  | .letStmt _ => []
  | .argument => "element".toList

/-- The text with the new header, and without what popped. -/
def Finding.rewritten (finding : Finding) (source : SourceFile) : List Char :=
  source.text.take finding.loopSpan.lo ++
    ("while let Some(".toList ++ finding.form.binding source ++ ") = ".toList ++
      source.slice finding.receiverSpan ++ ".pop()".toList) ++
    (source.text.take finding.popSpan.lo).drop finding.loopSpan.hi ++
    finding.form.remainder ++ source.text.drop finding.popSpan.hi

/-- A finding in a loop whose fix can be put together and is spliced in the right places: no
snippet of it falls back to a default. -/
structure Finding.Lands (finding : Finding) (source : SourceFile) (loop : Span) : Prop where
  ordered : finding.loopSpan.hi ≤ finding.popSpan.lo
  headerInside : loop.contains finding.loopSpan = true
  popInside : loop.contains finding.popSpan = true
  inText : loop.hi ≤ source.text.length
  receiverText : ∀ default, source.snippet (some finding.receiverSpan) default =
    String.ofList (source.slice finding.receiverSpan)
  patternText : ∀ pat, finding.form = .letStmt pat → ∀ default,
    source.snippet (some pat.origin.span) default = String.ofList (source.slice pat.origin.span)
  fixed : ∃ suggestion, finding.fix source = .ok suggestion ∧
    suggestion.apply source.text = finding.rewritten source

theorem snippet_eq_slice {source : SourceFile} {span : Span} (starts : 0 < span.lo)
    (ends : span.hi ≤ source.text.length) (default : String) :
    source.snippet (some span) default = String.ofList (source.slice span) := by
  have started : span ≠ Span.origin := by
    intro same
    rw [same] at starts
    exact Nat.lt_irrefl 0 starts
  have ended : ¬ source.text.length < span.hi := by omega
  simp [SourceFile.snippet, started, ended]

theorem Finding.Ordered.lands {source : SourceFile} {loop : Span} {finding : Finding}
    (ordered : finding.Ordered loop) (ends : loop.hi ≤ source.text.length) :
    finding.Lands source loop := by
  have := finding.loopSpan.lo_le_hi
  have := finding.popSpan.lo_le_hi
  have := finding.receiverSpan.lo_le_hi
  have := ordered.header
  have := ordered.receiver
  have := ordered.checked
  have := ordered.body
  have := ordered.popped
  have receiverText : ∀ default, source.snippet (some finding.receiverSpan) default =
      String.ofList (source.slice finding.receiverSpan) := snippet_eq_slice (by omega) (by omega)
  have patternText : ∀ pat, finding.form = .letStmt pat → ∀ default,
      source.snippet (some pat.origin.span) default =
        String.ofList (source.slice pat.origin.span) := by
    intro pat isLet
    have := ordered.pattern pat isLet
    exact snippet_eq_slice (by omega) (by omega)
  refine ⟨ordered.body, Span.contains_iff.mpr (by omega), Span.contains_iff.mpr (by omega), ends,
    receiverText, patternText, ?_⟩
  -- The keyword stands in the header before the receiver, so the first edit starts earlier.
  have starts : finding.loopSpan.lo < finding.popSpan.lo := by omega
  have disjoint : Edit.firstOverlap? [⟨finding.loopSpan, finding.headerText source⟩,
      ⟨finding.popSpan, finding.popReplacement⟩] = none :=
    Edit.firstOverlap?_pair starts ordered.body
  refine ⟨⟨fixMessage, _, .machineApplicable, disjoint⟩, ?_, ?_⟩
  · unfold fix Suggestion.ofEdits
    split
    · rfl
    · next overlap overlaps => rw [disjoint] at overlaps; cases overlaps
  · rw [Suggestion.apply, Edit.applyAll_pair _ starts]
    have pattern : (finding.patternText source).toList = finding.form.binding source := by
      unfold Finding.patternText
      cases form : finding.form with
      | letStmt pat =>
        simp only [patternText pat form, String.toList_ofList]
        rfl
      | argument => rfl
    have replacement : finding.popReplacement.toList = finding.form.remainder := by
      unfold popReplacement
      cases finding.form <;> rfl
    have header : (finding.headerText source).toList =
        "while let Some(".toList ++ finding.form.binding source ++ ") = ".toList ++
          source.slice finding.receiverSpan ++ ".pop()".toList := by
      have joined : finding.headerText source = "while let Some(" ++ finding.patternText source ++
          ") = " ++ source.snippet (some finding.receiverSpan) ++ ".pop()" := rfl
      rw [joined, receiverText, ← pattern]
      simp only [String.toList_append, String.toList_ofList]
    rw [rewritten, header, replacement]

/-- The fix of a loop of a file lands when the finding names the parts of that loop. -/
theorem Finding.Describes.lands {source : SourceFile} {crate : Crate} {origin : Origin}
    {cond : Expr} {body : Block} {header : Span} {label : Option String} {finding : Finding}
    (parsed : source.parse = .ok crate)
    (listed : Node.expr (.whileLoop origin cond body header label) ∈ crate.walk)
    (describes : finding.Describes cond body header) : finding.Lands source origin.span := by
  obtain ⟨last, placed⟩ := source.parse_inPlace parsed
  have inCrate : ∀ node ∈ crate.walk, node ∈ Node.walkAll [.crate crate] := by
    intro node below
    exact Node.mem_walkAll_of_mem (List.mem_singleton.mpr rfl) below
  have ordered := describes.ordered fun node below =>
    placed.wellPlaced node (inCrate node (Node.mem_walk_trans listed below))
  have crateEnds := (placed.spans (.crate crate) List.mem_cons_self).2
  have loopEnds := (Node.span_covers
    (fun node below => placed.wellPlaced node (inCrate node below)) listed).2
  exact ordered.lands (Nat.le_trans loopEnds crateEnds)

/-- The fix of every loop that is found in a file lands: its two edits are disjoint and inside the
loop, and the text after them is the one that was meant. -/
theorem fix_lands {source : SourceFile} {crate : Crate} {resolver : Resolver} {origin : Origin}
    {cond : Expr} {body : Block} {header : Span} {label : Option String} {finding : Finding}
    (parsed : source.parse = .ok crate)
    (listed : Node.expr (.whileLoop origin cond body header label) ∈ crate.walk)
    (found : examine resolver cond (.block body) header = .found finding) :
    finding.Describes cond body header ∧ finding.Lands source origin.span := by
  have describes := examine_describes found
  exact ⟨describes, describes.lands parsed listed⟩

theorem fix_lands_drainFile :
    ∃ crate tables origin cond body header label finding, drainFile.parse = .ok crate ∧
      Node.expr (.whileLoop origin cond body header label) ∈ crate.walk ∧
      examine (Typing.Tables.resolver tables) cond (.block body) header = .found finding ∧
      finding.Describes cond body header ∧ finding.Lands drainFile origin.span := by
  obtain ⟨crate, tables, origin, cond, body, header, label, finding, parsed, _, _, listed, found⟩ :=
    drainFile_found
  obtain ⟨describes, lands⟩ := fix_lands parsed listed found
  exact ⟨crate, tables, origin, cond, body, header, label, finding, parsed, listed, found,
    describes, lands⟩

/-! ## The loop that a fix means -/

/-- A file after a fix. -/
def fixedFile (source : SourceFile) (suggestion : Suggestion) : SourceFile :=
  ⟨source.name, suggestion.apply source.text⟩

/-- The pattern of a header binds what the popping statement or argument was. -/
def PopForm.BoundBy (form : PopForm) (pat : Pat) : Prop :=
  match form with
  | .letStmt original => Comparison.sameNode {} (.pat pat) (.pat original) = true
  | .argument => ∃ origin, pat = .binding origin "element" false false none

/-- The header `while let Some(pat) = popped.pop()`, for the receiver of a finding. -/
inductive PopsInHeader (receiver : Expr) (form : PopForm) : Expr → Prop
  | whileLet {origin somePat callOrigin : Origin} {pat : Pat} {popped : Expr} {span : Span}
      {genericArgs : List Ty} (bound : form.BoundBy pat)
      (same : Comparison.sameExpr {} popped receiver = true) :
      PopsInHeader receiver form (.letCond origin (.tupleStruct somePat ["Some"] [pat])
        (.methodCall callOrigin popped "pop" [] span genericArgs))

/-- A loop with a header that binds what a method call returns. -/
def bindsCall : Node → Bool
  | .expr (.whileLoop _ (.letCond _ _ (.methodCall ..)) _ _ _) => true
  | _ => false

/-- The finding of a loop that pops in a `let`, with the receiver it checks. -/
def letFindingOf? : Node → Option (Expr × Finding)
  | .expr (.whileLoop _ (.unary _ _ (.methodCall _ receiver _ _ _ _))
      (.mk _ (.letStmt origin pat _ (some _) _ :: _) _ _) header _) =>
    some (receiver, ⟨origin.span, header, receiver.origin.span, .letStmt pat⟩)
  | _ => none

theorem letFindingOf?_eq_some {origin : Origin} {cond : Expr} {body : Block} {header : Span}
    {label : Option String} {receiver : Expr} {finding finding' : Finding}
    (isLet : letFindingOf? (.expr (.whileLoop origin cond body header label)) =
      some (receiver, finding))
    (describes : finding'.Describes cond body header) :
    finding' = finding ∧ ∃ call, Tests cond call receiver := by
  obtain ⟨loopSpan, ⟨call, checked, tests, receiverSpan⟩, first, rest, expr, listed, takes⟩ :=
    describes
  cases tests
  unfold letFindingOf? at isLet
  split at isLet
  · next shape =>
    cases shape
    cases isLet
    cases listed
    obtain ⟨popSpan, loopSpan, receiverSpan, form⟩ := finding'
    cases takes
    subst_vars
    exact ⟨rfl, _, .negated⟩
  · cases isLet

/-- A function that drains what a reference points to. -/
def derefFile : SourceFile := ⟨"deref.rs",
  "fn f(v: &mut Vec<i32>) { while !(*v).is_empty() { let x = (*v).pop().unwrap(); } }".toList⟩

/-- The new header takes over the receiver without its parentheses: `(*v).is_empty()` turns into
`*v.pop()`, which is a dereference and no call of `pop`. -/
theorem fix_misreads_derefFile : ∃ crate tables origin cond body header label finding call receiver
    suggestion fixed, derefFile.parse = .ok crate ∧
      (Typing.inferCrate crate).result = .ok tables ∧
      Node.expr (.whileLoop origin cond body header label) ∈ crate.walk ∧
      examine tables.resolver cond (.block body) header = .found finding ∧
      Tests cond call receiver ∧ finding.fix derefFile = .ok suggestion ∧
      (fixedFile derefFile suggestion).parse = .ok fixed ∧
      ¬ ∃ origin cond body header label,
        Node.expr (.whileLoop origin cond body header label) ∈ fixed.walk ∧
        header.lo = finding.loopSpan.lo ∧ PopsInHeader receiver finding.form cond := by
  have evaluated : derefFile.crateNoted?.any (fun crate =>
      (Typing.inferCrate crate).fault?.isNone && crate.walk.any fun node =>
        drainsOperand (Typing.inferCrate crate).tables.resolver node &&
          (letFindingOf? node).any fun (_, finding) =>
            (SourceFile.mk derefFile.name (finding.rewritten derefFile)).crateNoted?.any
              fun fixed => fixed.walk.all fun node => !bindsCall node) = true := by
    decide +kernel
  obtain ⟨crate, parsed, checked⟩ := SourceFile.parse_of_noted evaluated
  simp only [Bool.and_eq_true, Option.isNone_iff_eq_none, List.any_eq_true] at checked
  obtain ⟨faultless, node, listed, drains, misread⟩ := checked
  obtain ⟨origin, cond, body, header, label, rfl, finding, found⟩ := examine_of_drainsOperand drains
  have inferred : (Typing.inferCrate crate).result = .ok (Typing.inferCrate crate).tables := by
    rw [Typing.Inference.result, faultless]
  have describes := examine_describes found
  obtain ⟨suggestion, fixes, applied⟩ := (describes.lands parsed listed).fixed
  cases isLet : letFindingOf? (.expr (.whileLoop origin cond body header label)) with
  | none =>
    rw [isLet] at misread
    cases misread
  | some known =>
    obtain ⟨receiver, letFinding⟩ := known
    obtain ⟨rfl, call, tests⟩ := letFindingOf?_eq_some isLet describes
    rw [isLet] at misread
    obtain ⟨fixed, reparsed, noCall⟩ := SourceFile.parse_of_noted misread
    rw [← applied] at reparsed
    refine ⟨crate, _, origin, cond, body, header, label, finding, call, receiver, suggestion, fixed,
      parsed, inferred, listed, found, tests, fixes, reparsed, ?_⟩
    -- The header of the fixed loop binds a dereference, not what a method call returns.
    rintro ⟨_, _, _, _, _, loop, _, pops⟩
    cases pops
    have := List.all_eq_true.mp noCall _ loop
    cases this

end Lint
end DrainLint
