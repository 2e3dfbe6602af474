import DrainLint.Proofs.Grammar.Integers
import DrainLint.Proofs.Grammar.MembersItems
import DrainLint.Proofs.Grammar.Parentheses
import DrainLint.Proofs.Grammar.PlacedItems
import DrainLint.Proofs.Peg.Noted
import DrainLint.Proofs.Typing.Accounts
import Mathlib.Data.List.ReduceOption

/-! # Complete tables

The tables of a crate hold one type for every expression of a body and none for anything else, and
name for every method call the method that the type of its receiver has.

- `Tables.Complete`: what complete tables are;
- `typed_iff_inBody`: the expressions that have a type;
- `inferCrate_complete`: the inference comes to complete tables, or to a field that is no number;
- `inferCrate_stops_longName`: it comes to none where a field has too many digits.
-/

namespace DrainLint.Typing

open Hir Check Grammar Peg

/-! ## The expressions that have a type -/

section

variable {crate : Crate}

theorem mem_types_iff {id : Nat} : id ∈ (inferCrate crate).tables.types.map Prod.fst ↔
    ∃ value, Node.expr value ∈ (Node.crate crate).code ∧ value.origin.id = id := by
  rw [(inferCrate_accounts crate).types.mem_iff, List.mem_map]
  constructor
  · rintro ⟨node, listed, rfl⟩
    obtain ⟨inCode, isExpr⟩ := List.mem_filter.mp listed
    cases node with
    | expr value => exact ⟨value, inCode, rfl⟩
    | _ => cases isExpr
  · rintro ⟨value, inCode, rfl⟩
    exact ⟨.expr value, List.mem_filter.mpr ⟨inCode, rfl⟩, rfl⟩

/-- The expressions that have a type are those of bodies. -/
theorem typed_iff_inBody (distinct : (crate.walk.map Node.id).Nodup) {value : Expr}
    (listed : Node.expr value ∈ crate.walk) :
    value.origin.id ∈ (inferCrate crate).tables.types.map Prod.fst ↔
      Node.InBody (.crate crate) (.expr value) := by
  rw [mem_types_iff]
  constructor
  · rintro ⟨other, inCode, same⟩
    -- An expression with this number is the expression itself.
    cases List.inj_on_of_nodup_map distinct ((Node.code_sublist _).subset inCode) listed same
    exact Node.inBody_of_mem_code inCode
  · exact fun inBody => ⟨value, inBody.mem_code, rfl⟩

/-! ## Complete tables -/

/-- Tables with one type for each expression of a body and with the callees of method calls. -/
structure Tables.Complete (crate : Crate) (tables : Tables) : Prop where
  /-- What is written down about an expression is never written again. -/
  once : (tables.types.map Prod.fst).Nodup
  /-- Types are written down for expressions only. -/
  exprs : ∀ id ∈ tables.types.map Prod.fst,
    ∃ value, Node.expr value ∈ crate.walk ∧ value.origin.id = id
  /-- The expressions with a type are those of the bodies of functions and the values of
  constants, wherever these are declared. -/
  bodies : ∀ value, Node.expr value ∈ crate.walk →
    (value.origin.id ∈ tables.types.map Prod.fst ↔ Node.InBody (.crate crate) (.expr value))
  /-- A method call has a callee where the type of its receiver has the method, and that one. -/
  callees : ∀ origin receiver method args span genericArgs,
    Node.InBody (.crate crate)
      (.expr (.methodCall origin receiver method args span genericArgs)) →
    tables.resolver.callee origin.id = ((MethodTable.ofCrate crate).findMethod?
      (tables.typeOf receiver.origin.id) method).map Callee.path

theorem complete_of_result {tables : Tables} (distinct : (crate.walk.map Node.id).Nodup)
    (inferred : (inferCrate crate).result = .ok tables) : tables.Complete crate := by
  obtain ⟨_, same⟩ := result_eq_ok_iff.mp inferred
  refine ⟨?_, ?_, ?_, ?_⟩
  · rw [← same]
    exact types_nodup distinct
  · intro id listed
    rw [← same] at listed
    obtain ⟨value, inCode, isId⟩ := mem_types_iff.mp listed
    exact ⟨value, (Node.code_sublist _).subset inCode, isId⟩
  · intro value listed
    rw [← same]
    exact typed_iff_inBody distinct listed
  · intro origin receiver method args span genericArgs inBody
    have inCode := inBody.mem_code
    cases found : (MethodTable.ofCrate crate).findMethod? (tables.typeOf receiver.origin.id) method
    with
    | some callee => exact (callee_of_found distinct inferred inCode found).1
    | none =>
      -- Whatever were called would be a method of the type.
      cases called : tables.resolver.callee origin.id with
      | none => rfl
      | some path =>
        obtain ⟨_, callee, found', _⟩ :=
          callee_grounded distinct inferred ((Node.code_sublist _).subset inCode) called
        rw [found] at found'
        cases found'

/-- The inference comes to no tables only for a field whose digits are no number. -/
theorem faulty_of_result {fault : IndexFault} (stopped : (inferCrate crate).result = .error fault) :
    ∃ node ∈ (Node.crate crate).code, FaultyField fault node := by
  apply (inferCrate_accounts crate).faults fault
  unfold Inference.result at stopped
  split at stopped
  · next noted =>
    cases stopped
    exact noted
  · cases stopped

end

/-- Whether a node is no field that stops the inference. -/
def isNumbered : Node → Bool
  | .expr (.field _ _ name) => (tupleIndex? name).isOk
  | _ => true

theorem not_faultyField {node : Node} (numbered : isNumbered node = true) (fault : IndexFault) :
    ¬ FaultyField fault node := by
  unfold FaultyField
  split
  · intro failed
    simp only [isNumbered, failed] at numbered
    cases numbered
  · exact id

/-- Whether a node is a method call on a field. -/
def callsOnField : Node → Bool
  | .expr (.methodCall _ (.field ..) _ _ _ _) => true
  | _ => false

/-- A function that calls a method on a field of a tuple. -/
def fieldFile : SourceFile := ⟨"field.rs", "fn f(t: (&str,)) \x7b t.0.len(); \x7d".toList⟩

theorem fieldFile_parses : ∃ crate, fieldFile.parse = .ok crate ∧
    (∃ node ∈ crate.walk, callsOnField node = true) ∧
      ∀ fault, ∀ node ∈ crate.walk, ¬ FaultyField fault node := by
  have evaluated : fieldFile.crateNoted?.any
      (fun crate => crate.walk.any callsOnField && crate.walk.all isNumbered) = true := by
    decide +kernel
  obtain ⟨crate, parsed, checked⟩ := SourceFile.parse_of_noted evaluated
  rw [Bool.and_eq_true, List.any_eq_true, List.all_eq_true] at checked
  exact ⟨crate, parsed, checked.1,
    fun fault node listed => not_faultyField (checked.2 node listed) fault⟩

/-- The inference of a file comes to complete tables, for every nesting of nodes, unless the digits
of a field are no number. -/
theorem inferCrate_complete {source : SourceFile} {crate : Crate}
    (parsed : source.parse = .ok crate) :
    (∃ tables, (inferCrate crate).result = .ok tables ∧ tables.Complete crate) ∨
      ∃ fault, (inferCrate crate).result = .error fault ∧
        ∃ node ∈ (Node.crate crate).code, FaultyField fault node := by
  cases inferred : (inferCrate crate).result with
  | ok tables =>
    exact .inl ⟨tables, rfl, complete_of_result (SourceFile.parse_distinct parsed) inferred⟩
  | error fault => exact .inr ⟨fault, rfl, faulty_of_result inferred⟩

theorem inferCrate_complete_fieldFile : ∃ crate, fieldFile.parse = .ok crate ∧
    (∃ node ∈ crate.walk, callsOnField node = true) ∧
      ∃ tables, (inferCrate crate).result = .ok tables ∧ tables.Complete crate := by
  obtain ⟨crate, parsed, calls, numbered⟩ := fieldFile_parses
  refine ⟨crate, parsed, calls, ?_⟩
  rcases inferCrate_complete parsed with complete | ⟨fault, _, node, inCode, faulty⟩
  · exact complete
  · exact absurd faulty (numbered fault node ((Node.code_sublist _).subset inCode))

/-! ## A field that stops the inference -/

theorem tupleIndex?_replicate {digit : Char} {value count : Nat}
    (isDigit : Text.isDigit digit = true) (isValue : Text.decimalDigit? digit = some value)
    (long : Text.maxDecimalDigits < count) :
    tupleIndex? (String.ofList (List.replicate count digit)) = .error (.tooManyDigits count) := by
  have values : (((List.replicate count digit).map Text.decimalDigit?).takeWhile
      Option.isSome).reduceOption = List.replicate count value := by
    simp [List.map_replicate, isValue, List.reduceOption]
  have nonempty : count ≠ 0 := by omega
  unfold tupleIndex?
  simp only [String.toList_ofList, values, List.length_replicate, if_pos long]
  simp [isDigit, nonempty]

/-- A field of a tuple is looked up at the tuple first, so a fault of its name is noted. -/
theorem fieldType_tuple {table : MethodTable} {args : List SemTy} {name : String}
    {fault : IndexFault} (failed : tupleIndex? name = .error fault) :
    fieldType table (.tuple args) name = do noteFault fault; return .unknown := by
  have steps : autoderef (.tuple args) = [.tuple args] := rfl
  have kind : (SemTy.tuple args).kind = .tuple := rfl
  simp only [fieldType, steps, List.findSomeM?_cons, MethodTable.fieldResult?, kind, failed]
  rfl

/-- The crate of `fn f(t: (u8,)) { t.name; }`, for a field of the given name, up to where it ends. -/
def fieldCrate (name : String) (stop : Nat := 19 + name.length) : Crate :=
  let place (id lo hi : Nat) : Origin := ⟨id, .between lo hi⟩
  let param : Param := .mk (place 4 5 13) (.binding (place 1 5 6) "t" false false none)
    (some (.tuple (place 3 8 13) [.path (place 2 9 11) ["u8"] []]))
  let field : Expr := .field (place 6 17 stop) (.path (place 5 17 18) ["t"] []) name
  let body : Block := .mk (place 8 15 (stop + 3)) [.expr (place 7 17 (stop + 1)) field true] none
    false
  ⟨place 10 0 (stop + 3), [.fnDef (place 9 0 (stop + 3)) "f" [] [param] none (some body) []], []⟩

/-- The name of the field in a crate of that form. -/
def fieldName? (stop : Nat) : Crate → Option String
  | ⟨crate, [.fnDef fn f [] [.mk param (.binding pat t false false none)
      (some (.tuple tuple [.path elem [u8] []]))] none
      (some (.mk body [.expr stmt (.field field (.path base [t'] []) name) true] none false)) []],
      []⟩ =>
    let place (id lo hi : Nat) : Origin := ⟨id, .between lo hi⟩
    if pat = place 1 5 6 ∧ elem = place 2 9 11 ∧ tuple = place 3 8 13 ∧ param = place 4 5 13 ∧
        base = place 5 17 18 ∧ field = place 6 17 stop ∧ stmt = place 7 17 (stop + 1) ∧
        body = place 8 15 (stop + 3) ∧ fn = place 9 0 (stop + 3) ∧ crate = place 10 0 (stop + 3) ∧
        f = "f" ∧ t = "t" ∧ u8 = "u8" ∧ t' = "t" then some name else none
  | _ => none

theorem eq_fieldCrate {crate : Crate} {name : String} {stop : Nat}
    (found : fieldName? stop crate = some name) : crate = fieldCrate name stop := by
  unfold fieldName? at found
  split at found
  · simp only at found
    split at found
    · rename_i same
      cases found
      obtain ⟨rfl, rfl, rfl, rfl, rfl, rfl, rfl, rfl, rfl, rfl, rfl, rfl, rfl, rfl⟩ := same
      rfl
    · cases found
  · cases found

theorem field_mem_fieldCrate (name : String) (stop : Nat) :
    Node.expr (.field ⟨6, .between 17 stop⟩ (.path ⟨5, .between 17 18⟩ ["t"] []) name) ∈
      (fieldCrate name stop).walk := by
  simp [fieldCrate, Crate.walk, Node.walk_eq, Node.children_eq, Node.fields]

/-- What stands before the name in a text of `fieldCrate`. -/
def beforeField : List Char := "fn f(t: (u8,)) \x7b t.".toList

/-- The text of `fieldCrate`. -/
def fieldText (name : List Char) : List Char := beforeField ++ (name ++ "; \x7d".toList)

/-- The only point in the text is the one in front of the name. -/
theorem point_of_fieldText {name : List Char} (pointless : '.' ∉ name) {place : Nat}
    (isPoint : (fieldText name)[place]? = some '.') : place = 18 := by
  have length : beforeField.length = 19 := by decide
  have inFront : ∀ place < 19, beforeField[place]? = some '.' → place = 18 := by decide
  rw [fieldText, List.getElem?_append] at isPoint
  split at isPoint
  · exact inFront place (by omega) isPoint
  · rcases List.mem_append.mp (List.mem_of_getElem? isPoint) with inName | behind
    · exact absurd inName pointless
    · exact absurd behind (by decide)

def nines (count : Nat) : String := String.ofList (List.replicate count '9')

/-- Of digits with a semicolon behind them all the digits are read as a position. -/
theorem position_nines (count : Nat) :
    position (List.replicate (count + 1) '9' ++ "; \x7d".toList) =
      some (nines (count + 1), count + 1) := by
  have counted :
      lengthWhile Text.isAsciiDigit (List.replicate (count + 1) '9' ++ "; \x7d".toList) =
        count + 1 := by
    rw [lengthWhile_append _ (by simp; decide), List.length_replicate]
    rfl
  have front : (List.replicate (count + 1) '9' ++ "; \x7d".toList).take (count + 1) =
      List.replicate (count + 1) '9' := List.take_left' List.length_replicate
  simp only [position, counted, front]
  rfl

/-- The digits are what is read from the text as the name of the field. -/
theorem eq_of_fieldRead {count stop : Nat} {name : String} (positive : 0 < count)
    (read : FieldRead (fieldText (List.replicate count '9')) stop name) : name = nines count := by
  obtain ⟨count, rfl⟩ := Nat.exists_eq_add_one.mpr positive
  obtain @⟨point, _, _, _, on, reads, -⟩ := read
  have pointless : '.' ∉ List.replicate (count + 1) '9' := by simp
  simp only [fieldLink, reads_map_iff, reads_seqRight_iff, reads_orElse_iff] at reads
  obtain ⟨_, ⟨_, _, _, ⟨_, _, _, readsPoint, readsBlanks⟩, readsName⟩, same⟩ := reads
  cases same
  obtain ⟨isPoint, rfl⟩ := sym_reads (c := '.') rfl readsPoint
  have place : point.offset = 18 := point_of_fieldText pointless (by
    rw [on, List.getElem?_drop, Nat.add_zero] at isPoint
    exact isPoint)
  have rest : (point.advance 1).rest = List.replicate (count + 1) '9' ++ "; \x7d".toList := by
    rw [Cursor.advance, on, place]
    rfl
  -- No blank and no word starts with a digit, so nothing but the digits is read.
  have noBlank : blankLength (List.replicate (count + 1) '9' ++ "; \x7d".toList) = 0 := rfl
  have noWord : identifier (List.replicate (count + 1) '9' ++ "; \x7d".toList) = none := rfl
  obtain ⟨_, blanks, rfl, -⟩ := readsBlanks
  simp only [rest, noBlank] at blanks
  cases blanks
  rcases readsName with ⟨_, word, -⟩ | ⟨_, found, -⟩
  · rw [Cursor.advance, List.drop_zero, rest, noWord] at word
    cases word
  · rw [Cursor.advance, List.drop_zero, rest, position_nines] at found
    cases found
    rfl

/-- A name of so many digits that it is no number. -/
def longName : String := nines 4301

theorem fault_of_fieldCrate {name : String} {stop : Nat} {fault : IndexFault}
    (failed : tupleIndex? name = .error fault) :
    (inferCrate (fieldCrate name stop)).fault? = some fault := by
  have found (known : Local) :
      List.findSome? (fun scope => List.lookup "t" scope) [[], [("t", known)]] = some known := rfl
  have ran (table : MethodTable) :
      ((inferItems table [] (fieldCrate name stop).items).run {}).2.fault? = some fault := by
    -- The path refers to the parameter, the type of which is a tuple, whatever it is made of.
    simp [fieldCrate, inferItems, inferItem, inBody, bindParams, lower?, lower, Declarations.lower,
      Declarations.lowerWith, noteDeep, bindPattern, declare, inferBlock, inScope, typed,
      inferStmts, inferStmt, inferExpr, pathType, findLocal, found, recordBinding, recordType,
      fieldType_tuple failed, noteFault]
    rfl
  exact ran (MethodTable.ofCrate (fieldCrate name stop))

def ninesFile (count : Nat) : SourceFile := ⟨"long.rs", fieldText (List.replicate count '9')⟩

/-- A parse of the file in the form of `fieldCrate` has the digits of the file as the name. -/
theorem eq_of_parse_ninesFile {count : Nat} {crate : Crate} (positive : 0 < count)
    (parsed : (ninesFile count).parse = .ok crate)
    (shaped : (fieldName? (19 + count) crate).isSome) :
    crate = fieldCrate (nines count) := by
  obtain ⟨name, found⟩ := Option.isSome_iff_exists.mp shaped
  obtain rfl := eq_fieldCrate found
  have written := SourceFile.parse_asWritten parsed _ (field_mem_fieldCrate name (19 + count))
  obtain rfl := eq_of_fieldRead positive (written.field _ _ _ rfl)
  have long : (nines count).length = count := by simp [nines]
  rw [long]

theorem ninesFile_parses : (ninesFile 4301).parse = .ok (fieldCrate longName) := by
  have evaluated : (ninesFile 4301).crateNoted?.any
      (fun crate => (fieldName? (19 + 4301) crate).isSome) = true := by
    decide +kernel
  obtain ⟨crate, parsed, shaped⟩ := SourceFile.parse_of_noted evaluated
  have positive : 0 < 4301 := by decide
  have named := eq_of_parse_ninesFile positive parsed shaped
  rw [parsed, named, longName]

/-- The file parses, and has expressions that ought to have a type, but the inference gives up. -/
theorem inferCrate_stops_longName :
    (ninesFile 4301).parse = .ok (fieldCrate longName) ∧
      (∃ value, Node.InBody (.crate (fieldCrate longName)) (.expr value)) ∧
      (inferCrate (fieldCrate longName)).result = .error (.tooManyDigits 4301) := by
  have nine : Text.decimalDigit? '9' = some 9 := by decide
  have failed : tupleIndex? longName = .error (.tooManyDigits 4301) :=
    tupleIndex?_replicate (by decide) nine (by decide)
  have owner : ∃ item ∈ (fieldCrate longName).items, ∃ body, (Node.item item).body? = some body :=
    ⟨_, List.mem_cons_self, _, rfl⟩
  refine ⟨ninesFile_parses, ?_, ?_⟩
  · obtain ⟨item, listed, body, isBody⟩ := owner
    have inCode : Node.item item ∈ (Node.crate (fieldCrate longName)).code :=
      Node.mem_code_child (by simpa [Node.children_eq, Node.fields] using listed) rfl
    exact ⟨body, _, inCode, body, isBody, Node.mem_code_self _⟩
  · rw [Inference.result, fault_of_fieldCrate failed]

end DrainLint.Typing
