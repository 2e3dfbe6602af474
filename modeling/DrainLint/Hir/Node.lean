import DrainLint.Hir.Basic

/-! # Nodes

The view of the representation as one kind of tree: a node is a type, a pattern, an expression, a
statement, an item or a part of one, and shows its fields by name and in order.

- `Node.fields`: the fields of a node by name;
- `Value.nodes`: the nodes that a field holds;
- `fields_weight_lt`: the fields of a node hold less than the node.
-/

namespace DrainLint.Hir

/-- A node of any kind. -/
inductive Node where
  | ty (node : Ty)
  | pat (node : Pat)
  | expr (node : Expr)
  | stmt (node : Stmt)
  | item (node : Item)
  | arm (node : Arm)
  | param (node : Param)
  | fieldDef (node : FieldDef)
  | crate (node : Crate)

/-- The value of a field. -/
inductive Value where
  | absent
  | node (node : Node)
  | list (values : List Value)
  | text (text : String)
  | flag (flag : Bool)
  | literal (literal : Literal)
  | symbol (name : String)
  | span (span : Span)
  | attr (attr : Attribute)

namespace Value

def ofBlock (block : Block) : Value := .node (.expr (.block block))

def ofExpr (expr : Expr) : Value := .node (.expr expr)

def ofTy (ty : Ty) : Value := .node (.ty ty)

def ofPat (pat : Pat) : Value := .node (.pat pat)

def ofStmt (stmt : Stmt) : Value := .node (.stmt stmt)

def ofItem (item : Item) : Value := .node (.item item)

def ofArm (arm : Arm) : Value := .node (.arm arm)

def ofParam (param : Param) : Value := .node (.param param)

def ofFieldDef (field : FieldDef) : Value := .node (.fieldDef field)

def ofOp (op : BinaryOp) : Value := .symbol op.symbol

def ofInit (init : FieldInit) : Value := .list [.text init.name, ofExpr init.value]

def ofOption {α : Type} (value : α → Value) : Option α → Value
  | none => .absent
  | some a => value a

def ofList {α : Type} (value : α → Value) (as : List α) : Value := .list (as.map value)

def texts (names : List String) : Value := ofList .text names

def attributes (attrs : List Attribute) : Value := ofList .attr attrs

end Value

namespace Node

def origin : Node → Origin
  | ty t => t.origin
  | pat p => p.origin
  | expr e => e.origin
  | stmt s => s.origin
  | item i => i.origin
  | arm a => a.origin
  | param p => p.origin
  | fieldDef f => f.origin
  | crate c => c.origin

def id (node : Node) : Nat := node.origin.id

def span (node : Node) : Span := node.origin.span

def className : Node → String
  | ty (.path ..) => "PathTy"
  | ty (.ref ..) => "RefTy"
  | ty (.ptr ..) => "PtrTy"
  | ty (.tuple ..) => "TupleTy"
  | ty (.slice ..) => "SliceTy"
  | ty (.fnPtr ..) => "FnPtrTy"
  | ty (.bounded ..) => "OpaqueTy"
  | ty (.never ..) => "NeverTy"
  | ty (.infer ..) => "InferTy"
  | pat (.binding ..) => "BindingPat"
  | pat (.wild ..) => "WildPat"
  | pat (.rest ..) => "RestPat"
  | pat (.tuple ..) => "TuplePat"
  | pat (.slice ..) => "SlicePat"
  | pat (.tupleStruct ..) => "TupleStructPat"
  | pat (.struct ..) => "StructPat"
  | pat (.path ..) => "PathPat"
  | pat (.lit ..) => "LitPat"
  | pat (.ref ..) => "RefPat"
  | pat (.or ..) => "OrPat"
  | expr (.lit ..) => "Lit"
  | expr (.path ..) => "PathExpr"
  | expr (.methodCall ..) => "MethodCall"
  | expr (.call ..) => "Call"
  | expr (.macroCall ..) => "MacroCall"
  | expr (.field ..) => "Field"
  | expr (.index ..) => "Index"
  | expr (.unary ..) => "Unary"
  | expr (.addrOf ..) => "AddrOf"
  | expr (.binary ..) => "Binary"
  | expr (.assign ..) => "Assign"
  | expr (.cast ..) => "Cast"
  | expr (.question ..) => "Try"
  | expr (.range ..) => "Range"
  | expr (.tuple ..) => "TupleExpr"
  | expr (.array ..) => "ArrayExpr"
  | expr (.arrayRepeat ..) => "RepeatExpr"
  | expr (.structLit ..) => "StructLit"
  | expr (.block ..) => "Block"
  | expr (.letCond ..) => "LetCond"
  | expr (.ite ..) => "If"
  | expr (.whileLoop ..) => "While"
  | expr (.loop ..) => "Loop"
  | expr (.forLoop ..) => "ForLoop"
  | expr (.matchArms ..) => "Match"
  | expr (.closure ..) => "Closure"
  | expr (.breakLoop ..) => "Break"
  | expr (.continueLoop ..) => "Continue"
  | expr (.returnFn ..) => "Return"
  | stmt (.letStmt ..) => "Local"
  | stmt (.expr ..) => "ExprStmt"
  | stmt (.item ..) => "ItemStmt"
  | item (.fnDef ..) => "FnDef"
  | item (.structDef ..) => "StructDef"
  | item (.enumDef ..) => "EnumDef"
  | item (.typeAlias ..) => "TypeAlias"
  | item (.constItem ..) => "ConstItem"
  | item (.useDecl ..) => "UseDecl"
  | item (.implBlock ..) => "ImplBlock"
  | item (.traitDef ..) => "TraitDef"
  | item (.modDef ..) => "ModDef"
  | item (.macroItem ..) => "MacroItem"
  | arm _ => "Arm"
  | param _ => "Param"
  | fieldDef _ => "FieldDef"
  | crate _ => "Crate"

open Value in
/-- The fields of a node by name, in order; the origin is none of them. -/
def fields : Node → List (String × Value)
  | ty (.path _ segments args) => [("segments", texts segments), ("args", ofList ofTy args)]
  | ty (.ref _ isMut inner) => [("mutable", flag isMut), ("inner", ofTy inner)]
  | ty (.ptr _ isMut inner) => [("mutable", flag isMut), ("inner", ofTy inner)]
  | ty (.tuple _ elems) => [("elems", ofList ofTy elems)]
  | ty (.slice _ inner length) => [("inner", ofTy inner), ("length", ofOption ofExpr length)]
  | ty (.fnPtr _ params ret) => [("params", ofList ofTy params), ("ret", ofOption ofTy ret)]
  | ty (.bounded _ keyword bound) => [("keyword", text keyword), ("bound", ofOption ofTy bound)]
  | ty (.never _) => []
  | ty (.infer _) => []
  | pat (.binding _ name isMut byRef sub) =>
    [("name", text name), ("mutable", flag isMut), ("by_ref", flag byRef),
      ("subpat", ofOption ofPat sub)]
  | pat (.wild _) => []
  | pat (.rest _) => []
  | pat (.tuple _ elems) => [("elems", ofList ofPat elems)]
  | pat (.slice _ elems) => [("elems", ofList ofPat elems)]
  | pat (.tupleStruct _ path elems) => [("path", texts path), ("elems", ofList ofPat elems)]
  | pat (.struct _ path) => [("path", texts path)]
  | pat (.path _ path) => [("path", texts path)]
  | pat (.lit _ value) => [("lit", ofExpr value)]
  | pat (.ref _ isMut inner) => [("mutable", flag isMut), ("inner", ofPat inner)]
  | pat (.or _ alts) => [("alts", ofList ofPat alts)]
  | expr (.lit _ value suffix) =>
    [("kind", symbol value.kind), ("value", literal value), ("suffix", text suffix)]
  | expr (.path _ segments genericArgs) =>
    [("segments", texts segments), ("generic_args", ofList ofTy genericArgs)]
  | expr (.methodCall _ receiver method args methodSpan genericArgs) =>
    [("receiver", ofExpr receiver), ("method", text method), ("args", ofList ofExpr args),
      ("method_span", Value.span methodSpan), ("generic_args", ofList ofTy genericArgs)]
  | expr (.call _ func args) => [("func", ofExpr func), ("args", ofList ofExpr args)]
  | expr (.macroCall _ path args delimiter tokens) =>
    [("path", texts path), ("args", ofList ofExpr args), ("delimiter", text delimiter),
      ("tokens", ofOption text tokens)]
  | expr (.field _ base name) => [("base", ofExpr base), ("name", text name)]
  | expr (.index _ base index) => [("base", ofExpr base), ("index", ofExpr index)]
  | expr (.unary _ op operand) => [("op", symbol op.symbol), ("operand", ofExpr operand)]
  | expr (.addrOf _ isMut operand) => [("mutable", flag isMut), ("operand", ofExpr operand)]
  | expr (.binary _ op lhs rhs) =>
    [("op", ofOp op), ("lhs", ofExpr lhs), ("rhs", ofExpr rhs)]
  | expr (.assign _ target value op) =>
    [("target", ofExpr target), ("value", ofExpr value),
      ("op", ofOption ofOp op)]
  | expr (.cast _ value t) => [("expr", ofExpr value), ("ty", ofTy t)]
  | expr (.question _ value) => [("expr", ofExpr value)]
  | expr (.range _ start stop inclusive) =>
    [("start", ofOption ofExpr start), ("end", ofOption ofExpr stop), ("inclusive", flag inclusive)]
  | expr (.tuple _ elems) => [("elems", ofList ofExpr elems)]
  | expr (.array _ elems) => [("elems", ofList ofExpr elems)]
  | expr (.arrayRepeat _ elem count) => [("elem", ofExpr elem), ("count", ofExpr count)]
  | expr (.structLit _ path inits base) =>
    [("path", texts path), ("fields", ofList ofInit inits), ("base", ofOption ofExpr base)]
  | expr (.block (.mk _ stmts tail isUnsafe)) =>
    [("stmts", ofList ofStmt stmts), ("expr", ofOption ofExpr tail),
      ("unsafe", flag isUnsafe)]
  | expr (.letCond _ p init) => [("pat", ofPat p), ("init", ofExpr init)]
  | expr (.ite _ cond onTrue onFalse) =>
    [("cond", ofExpr cond), ("then", ofBlock onTrue), ("else_", ofOption ofExpr onFalse)]
  | expr (.whileLoop _ cond body header label) =>
    [("cond", ofExpr cond), ("body", ofBlock body), ("header_span", Value.span header),
      ("label", ofOption text label)]
  | expr (.loop _ body label) => [("body", ofBlock body), ("label", ofOption text label)]
  | expr (.forLoop _ p iter body label) =>
    [("pat", ofPat p), ("iter", ofExpr iter), ("body", ofBlock body),
      ("label", ofOption text label)]
  | expr (.matchArms _ scrutinee arms) =>
    [("scrutinee", ofExpr scrutinee), ("arms", ofList ofArm arms)]
  | expr (.closure _ params body ret isMove) =>
    [("params", ofList ofParam params), ("body", ofExpr body),
      ("ret", ofOption ofTy ret), ("is_move", flag isMove)]
  | expr (.breakLoop _ label value) =>
    [("label", ofOption text label), ("expr", ofOption ofExpr value)]
  | expr (.continueLoop _ label) => [("label", ofOption text label)]
  | expr (.returnFn _ value) => [("expr", ofOption ofExpr value)]
  | arm (.mk _ p guard body) =>
    [("pat", ofPat p), ("guard", ofOption ofExpr guard), ("body", ofExpr body)]
  | param (.mk _ p t) => [("pat", ofPat p), ("ty", ofOption ofTy t)]
  | stmt (.letStmt _ p t init els) =>
    [("pat", ofPat p), ("ty", ofOption ofTy t), ("init", ofOption ofExpr init),
      ("els", ofOption ofBlock els)]
  | stmt (.expr _ value semi) => [("expr", ofExpr value), ("semi", flag semi)]
  | stmt (.item _ i) => [("item", ofItem i)]
  | fieldDef (.mk _ name t) => [("name", text name), ("ty", ofTy t)]
  | item (.fnDef _ name generics params ret body attrs) =>
    [("name", text name), ("generics", texts generics),
      ("params", ofList ofParam params), ("ret", ofOption ofTy ret),
      ("body", ofOption ofBlock body), ("attrs", attributes attrs)]
  | item (.structDef _ name generics fields attrs) =>
    [("name", text name), ("generics", texts generics),
      ("fields", ofList ofFieldDef fields), ("attrs", attributes attrs)]
  | item (.enumDef _ name attrs) => [("name", text name), ("attrs", attributes attrs)]
  | item (.typeAlias _ name generics t attrs) =>
    [("name", text name), ("generics", texts generics), ("ty", ofOption ofTy t),
      ("attrs", attributes attrs)]
  | item (.constItem _ name t value attrs) =>
    [("name", text name), ("ty", ofTy t), ("value", ofOption ofExpr value),
      ("attrs", attributes attrs)]
  | item (.useDecl _ path newName glob attrs) =>
    [("path", texts path), ("alias", ofOption text newName), ("glob", flag glob),
      ("attrs", attributes attrs)]
  | item (.implBlock _ generics selfTy traitRef items attrs) =>
    [("generics", texts generics), ("self_ty", ofTy selfTy), ("trait_ref", ofOption ofTy traitRef),
      ("items", ofList ofItem items), ("attrs", attributes attrs)]
  | item (.traitDef _ name generics items attrs) =>
    [("name", text name), ("generics", texts generics),
      ("items", ofList ofItem items), ("attrs", attributes attrs)]
  | item (.modDef _ name items attrs) =>
    [("name", text name), ("items", ofList ofItem items),
      ("attrs", attributes attrs)]
  | item (.macroItem _ path attrs) => [("path", texts path), ("attrs", attributes attrs)]
  | crate c =>
    [("items", ofList ofItem c.items), ("attrs", attributes c.attrs)]

noncomputable def weight : Node → Nat
  | ty t => sizeOf t
  | pat p => sizeOf p
  | expr e => sizeOf e
  | stmt s => sizeOf s
  | item i => sizeOf i
  | arm a => sizeOf a
  | param p => sizeOf p
  | fieldDef f => sizeOf f
  | crate c => sizeOf c

end Node

/-! ## What fields hold -/

namespace Value

mutual

/-- The nodes in a value, in order. -/
def nodes : Value → List Node
  | node n => [n]
  | list values => nodesAll values
  | _ => []

/-- The nodes in some values, in order. -/
def nodesAll : List Value → List Node
  | [] => []
  | value :: values => nodes value ++ nodesAll values

end

mutual

@[simp] noncomputable def weight : Value → Nat
  | node n => n.weight
  | list values => weightAll values
  | _ => 0

@[simp] noncomputable def weightAll : List Value → Nat
  | [] => 0
  | value :: values => weight value + weightAll values

end

theorem weight_ofTy (t : Ty) : (ofTy t).weight = sizeOf t := by
  simp [ofTy, weight, Node.weight]

theorem weight_ofPat (p : Pat) : (ofPat p).weight = sizeOf p := by
  simp [ofPat, weight, Node.weight]

theorem weight_ofExpr (e : Expr) : (ofExpr e).weight = sizeOf e := by
  simp [ofExpr, weight, Node.weight]

theorem weight_ofBlock (b : Block) : (ofBlock b).weight = sizeOf b + 1 := by
  simp [ofBlock, weight, Node.weight, Nat.add_comm]

theorem weight_ofStmt (s : Stmt) : (ofStmt s).weight = sizeOf s := by
  simp [ofStmt, weight, Node.weight]

theorem weight_ofItem (i : Item) : (ofItem i).weight = sizeOf i := by
  simp [ofItem, weight, Node.weight]

theorem weight_ofArm (a : Arm) : (ofArm a).weight = sizeOf a := by
  simp [ofArm, weight, Node.weight]

theorem weight_ofParam (p : Param) : (ofParam p).weight = sizeOf p := by
  simp [ofParam, weight, Node.weight]

theorem weight_ofFieldDef (f : FieldDef) : (ofFieldDef f).weight = sizeOf f := by
  simp [ofFieldDef, weight, Node.weight]

theorem weight_ofInit_le (init : FieldInit) : (ofInit init).weight ≤ sizeOf init := by
  cases init
  simp [ofInit, weight, weightAll, weight_ofExpr, FieldInit.name, FieldInit.value]

theorem weight_ofList_le {α : Type} [SizeOf α] {value : α → Value} (xs : List α)
    (small : ∀ x, (value x).weight ≤ sizeOf x) : (ofList value xs).weight ≤ sizeOf xs := by
  induction xs with
  | nil => simp [ofList, weight, weightAll]
  | cons x xs inductionHypothesis =>
    have := small x
    simp only [ofList, weight, List.map_cons, weightAll, List.cons.sizeOf_spec] at *
    omega

theorem weight_ofOption_le {α : Type} [SizeOf α] {value : α → Value} (x : Option α)
    (small : ∀ x, (value x).weight ≤ sizeOf x + 1) : (ofOption value x).weight ≤ sizeOf x := by
  cases x with
  | none => simp [ofOption, weight]
  | some x =>
    have := small x
    simp only [ofOption, Option.some.sizeOf_spec]
    omega

theorem weight_ofOption_text (text? : Option String) : (ofOption text text?).weight = 0 := by
  cases text? <;> simp [ofOption, weight]

theorem weight_ofOption_ofOp (op? : Option BinaryOp) : (ofOption ofOp op?).weight = 0 := by
  cases op? <;> simp [ofOption, ofOp, weight]

theorem weight_texts (names : List String) : (texts names).weight = 0 := by
  induction names with
  | nil => simp [texts, ofList, weight, weightAll]
  | cons name names inductionHypothesis =>
    simp only [texts, ofList, weight, List.map_cons, weightAll] at *
    omega

theorem weight_attributes (attrs : List Attribute) : (attributes attrs).weight = 0 := by
  induction attrs with
  | nil => simp [attributes, ofList, weight, weightAll]
  | cons attr attrs inductionHypothesis =>
    simp only [attributes, ofList, weight, List.map_cons, weightAll] at *
    omega

end Value

namespace Node

open Value in
theorem fields_weight_lt (node : Node) : weightAll (node.fields.map Prod.snd) < node.weight := by
  have tys := fun ts : List Ty => weight_ofList_le ts fun t => Nat.le_of_eq (weight_ofTy t)
  have pats := fun ps : List Pat => weight_ofList_le ps fun p => Nat.le_of_eq (weight_ofPat p)
  have exprs := fun es : List Expr => weight_ofList_le es fun e => Nat.le_of_eq (weight_ofExpr e)
  have stmts := fun ss : List Stmt => weight_ofList_le ss fun s => Nat.le_of_eq (weight_ofStmt s)
  have items := fun is : List Item => weight_ofList_le is fun i => Nat.le_of_eq (weight_ofItem i)
  have arms := fun as : List Arm => weight_ofList_le as fun a => Nat.le_of_eq (weight_ofArm a)
  have params := fun ps : List Param =>
    weight_ofList_le ps fun p => Nat.le_of_eq (weight_ofParam p)
  have fieldDefs := fun fs : List FieldDef =>
    weight_ofList_le fs fun f => Nat.le_of_eq (weight_ofFieldDef f)
  have inits := fun is : List FieldInit => weight_ofList_le is weight_ofInit_le
  have ty? := fun t : Option Ty =>
    weight_ofOption_le t fun t => Nat.le_succ_of_le (Nat.le_of_eq (weight_ofTy t))
  have pat? := fun p : Option Pat =>
    weight_ofOption_le p fun p => Nat.le_succ_of_le (Nat.le_of_eq (weight_ofPat p))
  have expr? := fun e : Option Expr =>
    weight_ofOption_le e fun e => Nat.le_succ_of_le (Nat.le_of_eq (weight_ofExpr e))
  have block? := fun b : Option Block =>
    weight_ofOption_le b fun b => Nat.le_of_eq (weight_ofBlock b)
  have scalars := weight_texts
  have attrs := weight_attributes
  have labels := weight_ofOption_text
  have ops := weight_ofOption_ofOp
  have placed : ∀ origin : Origin, 0 < sizeOf origin := by
    intro origin
    cases origin
    simp only [Origin.mk.sizeOf_spec]
    omega
  cases node with
  | ty t => cases t <;> simp [fields, weight, weightAll, Value.weight, weight_ofTy] <;> grind
  | pat p =>
    cases p <;> simp [fields, weight, weightAll, Value.weight, weight_ofPat, weight_ofExpr] <;>
      grind
  | expr e =>
    cases e with
    | block b =>
      cases b
      simp [fields, weight, weightAll, Value.weight]
      grind
    | _ =>
      simp [fields, weight, weightAll, Value.weight, weight_ofExpr, weight_ofTy, weight_ofPat,
        weight_ofBlock, ofOp] <;> grind
  | stmt s =>
    cases s <;>
      simp [fields, weight, weightAll, Value.weight, weight_ofExpr, weight_ofPat, weight_ofItem]
    all_goals grind
  | item i =>
    cases i <;> simp [fields, weight, weightAll, Value.weight, weight_ofTy] <;> grind
  | arm a =>
    cases a
    simp [fields, weight, weightAll, weight_ofExpr, weight_ofPat]
    grind
  | param p =>
    cases p
    simp [fields, weight, weightAll, weight_ofPat]
    grind
  | fieldDef f =>
    cases f
    simp only [fields, weightAll, List.map_cons, List.map_nil, Value.weight, Node.weight,
      FieldDef.mk.sizeOf_spec, weight_ofTy]
    grind
  | crate c =>
    cases c
    simp [fields, weight, weightAll]
    grind

end Node
end DrainLint.Hir
