import OrderedScope.Lookup

/-!
# Labels

The text of a value as it is shown in traces and messages. Plain data is written as a literal; an
entity is named by its class or its own text function. A context's label is its text, cut to eighty
characters; a context whose text function fails is named by its class, and a module by its name. A
text of a class below the texts is measured and cut by that class.
-/

namespace OrderedScope

/-- The length beyond which a label is cut. -/
def labelLimit : Nat := 80

namespace Label

/-- Texts between brackets. -/
def bracketed (opening closing : String) (parts : List String) : String :=
  opening ++ ", ".intercalate parts ++ closing

/-- The text of an instance that has no text of its own. -/
def anonymous (w : World) (v : Value) : String :=
  let c := w.classOf v
  let home := w.homeOf c
  "<" ++ (if home == "builtins" then "" else home ++ ".") ++ w.className c ++ " object at 0xADDR>"

/-- The text of a class. -/
def classText (w : World) (c : ClassRef) : String :=
  let home := w.homeOf c
  "<class '" ++ (if home == "builtins" then "" else home ++ ".") ++ w.className c ++ "'>"

/-- The text of a module. -/
def moduleText (w : World) (i : ModuleId) : String :=
  let name := match ((w.modules[i]?).bind fun m => m.members.find? "__name__") with
    | some (.str s) => Text.quote s
    | _ => "'?'"
  "<module " ++ name ++ (if i = World.kernelModule then " (built-in)>" else ">")

/-- The text of a resolver. -/
def resolverText (r : Resolver) : String :=
  r.variant.className ++ "(direction=" ++ r.direction.name ++ ", inner="
    ++ toString r.inner.length ++ ")"

/-- The text of a scope of a resolver. -/
def scopeText (r : Resolver) : String :=
  "<Scope " ++ r.variant.visibility ++ " " ++ r.direction.name ++ ">"

/-- The text of a member of a native class. -/
def nativeText (w : World) (owner : ClassRef) (kind : NativeKind) (name : String) : String :=
  let word := match kind with
    | .method | .classMethod => "method"
    | .wrapper => "slot wrapper"
    | .getset => "attribute"
    | .slot => "member"
  "<" ++ word ++ " " ++ Text.quote name ++ " of " ++ Text.quote (w.fullName owner) ++ " objects>"

/-- The text of a group. -/
def groupText (g : Group) : String :=
  "<ContextGroup." ++ g.title ++ ": " ++ Text.quote g.name ++ ">"

/-- The text of one part. -/
def part (run : Runner) (active : List ObjectId) (v : Value) : Run String := do
  (← run (.text active v)).contentOf

/-- The texts of the parts of a value. -/
def parts (run : Runner) (active : List ObjectId) (vs : List Value) : Run (List String) :=
  vs.mapM (part run active)

/-- The text of one part as it stands in a message. -/
def quotedPart (run : Runner) (active : List ObjectId) (v : Value) : Run String := do
  (← run (.text active v)).formatted run

/-- The text of a tuple. -/
def tupleText (run : Runner) (active : List ObjectId) (items : List Value) : Run String := do
  let texts ← parts run active items
  pure (bracketed "(" (if texts.length = 1 then ",)" else ")") texts)

/-- The texts of the fields of a value, each after its key. -/
def fields (run : Runner) (active : List ObjectId) (key : String → String)
    (entries : Members) : Run (List String) :=
  entries.mapM fun (name, v) => do pure (key name ++ (← part run active v))

/-- The text of a function. -/
def functionText (name : String) : String := "<function " ++ name ++ " at 0xADDR>"

/-- The name that a bound value shows. -/
def boundName (w : World) : Value → String
  | .fn i => w.functionName i
  | .libFn f => f.name
  | .cls c => w.className c
  | _ => "?"

/-- The text of an object by what it holds as a text, a tuple or a list, if it does; what it holds
as a direction is not followed. -/
def heldText (run : Runner) (active : List ObjectId) (v : Value) : Run String := do
  let w ← get
  match w.content? v, w.heldItems? v with
  | some s, _ => pure (Text.quote s)
  | none, some items =>
    if w.isSubclass (w.classOf v) (.native .tuple) then tupleText run active items
    else do pure (bracketed "[" "]" (← parts run active items))
  | none, none =>
    if w.isSubclass (w.classOf v) (.native .direction) then throw .exhausted
    else pure (anonymous w v)

/-- The text that a native class gives to its instances. -/
def standardText (run : Runner) (active : List ObjectId) (v : Value) : Run String := do
  let w ← get
  match v with
  | .none => pure "None"
  | .bool b => pure (Strategy.flag b)
  | .int n => pure (toString n)
  | .float x => pure (numberFormat.number x)
  | .str s => pure (Text.quote s)
  | .bytes s => pure (Text.quoteBytes s)
  | .range n => pure ("range(0, " ++ toString n ++ ")")
  | .list items => do pure (bracketed "[" "]" (← parts run active items))
  | .growing i => do pure (bracketed "[" "]" (← parts run active ((w.growing[i]?).getD [])))
  | .tuple items => tupleText run active items
  | .dict entries => do
    pure (bracketed "\x7b" "\x7d" (← fields run active (fun k => Text.quote k ++ ": ") entries))
  | .proxy entries => do
    pure (bracketed "mappingproxy(\x7b" "\x7d)"
      (← fields run active (fun k => Text.quote k ++ ": ") entries))
  | .group g => pure (groupText g)
  | .direction entries => do pure ("Direction(" ++ (← Value.letters run entries) ++ ")")
  | .cls c => pure (classText w c)
  | .module i => pure (moduleText w i)
  | .fn i => pure (functionText (w.functionName i))
  | .libFn f => pure (functionText f.name)
  | .bound f self => do
    pure ("<bound method " ++ boundName w f ++ " of " ++ (← part run active self) ++ ">")
  | .staticMethod f => pure ("<staticmethod(" ++ functionText (w.functionName f) ++ ")>")
  | .classMethod f => do pure ("<classmethod(" ++ (← part run active f) ++ ")>")
  | .slot owner name => pure (nativeText w (.world owner) .slot name)
  | .nativeMember owner kind name => pure (nativeText w owner kind name)
  | .nativeFn name => pure ("<built-in function " ++ name ++ ">")
  | .nativeMethod name self =>
    pure ("<built-in method " ++ name ++ " of " ++ w.className (w.classOf self)
      ++ " object at 0xADDR>")
  | .resolver i => pure ((w.resolvers[i]?).elim "" resolverText)
  | .capsule i =>
    match w.capsules[i]? with
    | some c => do
      let fn ← match c.closure with
        | .parts k => pure k.fn
        | .telling v => Attribute.get run v "fn"
      pure ("Isolator(" ++ (← quotedPart run active fn) ++ ", direction="
        ++ (← c.direction.directionName run) ++ ", visibility=" ++ Text.quote c.visibility ++ ")")
    | none => pure ""
  | .property .. | .code _ | .cell .. | .missing | .foreign _ | .report _ => pure (anonymous w v)
  | .object i =>
    match w.objects[i]? with
    | none => pure ""
    | some o =>
      match o.payload with
      | .scope r => pure ((w.resolvers[r]?).elim "" scopeText)
      | .closure fn outer => do
        pure ("Closure(fn=" ++ (← quotedPart run active fn) ++ ", outer="
          ++ (← quotedPart run active outer) ++ ")")
      | .partialCall fn => do pure ("functools.partial(" ++ (← part run active fn) ++ ")")
      | .callable _ => pure "<callable>"
      | .descriptor .. => pure (anonymous w v)
      | .plain | .text _ | .items _ =>
        if o.cls = .native .space then
          if active.contains i then pure "namespace(...)"
          else do
            pure (bracketed "namespace(" ")"
              (← fields run (i :: active) (· ++ "=") (o.attrs.getD [])))
        else heldText run active v

/-- The **text** of a value: by the text function of its class, which must give a text. -/
def text (run : Runner) (active : List ObjectId) (v : Value) : Run Value := do
  match ← Attribute.ask? run v "__repr__" [] with
  | none => Value.str <$> standardText run active v
  | some answer => Value.textOf "__repr__" answer

end Label

/-! ### Labels of contexts -/

namespace Label

/-- How **long** a text says that it is. -/
def toldLength (run : Runner) (text : Value) : Run Int := do
  match ← Attribute.ask? run text "__len__" [] with
  | none => do pure (← text.contentOf).length
  | some answer => answer.lengthOf run

/-- The first characters of a text, as it gives them. -/
def beginning (run : Runner) (text : Value) : Run Value := do
  match ← Attribute.ask? run text "__getitem__" [.foreign "slice"] with
  | none => do pure (.str (String.ofList ((← text.contentOf).toList.take (labelLimit - 3))))
  | some head => pure head

/-- What a text gives as its beginning, with three dots behind it. -/
def withDots (run : Runner) (head : Value) : Run Value := do
  match ← Attribute.ask? run head "__add__" [.str "..."], ← Run.reading (·.content? head) with
  | some (.foreign "NotImplementedType"), _ => do
    Run.raise (.misuse .type ("unsupported operand type(s) for +: "
      ++ Text.encloseUpTo 100 (← classNameOf head) ++ " and 'str'"))
  | some whole, _ => pure whole
  | none, some s => pure (.str (s ++ "..."))
  | none, none => head.joinTuple (.str "...")

/-- A text **cut** by its own measure. -/
def trimmed (run : Runner) (text : Value) : Run Value := do
  if labelLimit < (← toldLength run text) then withDots run (← beginning run text)
  else pure text

end Label

/-- The **label** of a context. A text function that fails does not fail the label. -/
def describe (run : Runner) (context : Value) : Run Value := do
  if ← Run.reading (·.isModule context) then
    let name ← Attribute.get run context "__name__"
    pure (.str ("<module " ++ (← name.formatted run) ++ ">"))
  else
    let text ← Run.recover (·.isA .failure) (run (.text [] context)) fun _ => do
      let c ← Run.reading (·.classOf context)
      Run.logText .debug fun _ => do
        let shown ← run (.text [] (.cls c))
        pure ("repr() failed for context of type " ++ (← shown.contentOf))
      Value.str <$> Run.reading (Label.anonymous · context)
    Label.trimmed run text

end OrderedScope
