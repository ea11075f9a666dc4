import OrderedScope.Object.Value

/-!
# Native Classes

The classes that exist in every world: their names, their ancestors and their members. Members that
are no functions of this library are given by name alone, each with the way it behaves: a method, a
wrapper of an operation, a computed field, a storage slot, or a method of the class itself.
-/

namespace OrderedScope

namespace Kind

/-- The class name of a kind of errors, for those that every world has. -/
def className : Kind → String
  | failure => "Exception"
  | attr => "AttributeError"
  | type => "TypeError"
  | value => "ValueError"
  | unicode => "UnicodeError"
  | lookup => "LookupError"
  | key => "KeyError"
  | index => "IndexError"
  | notImplemented => "NotImplementedError"
  | runtime => "RuntimeError"
  | recursion => "RecursionError"
  | os => "OSError"
  | fileNotFound => "FileNotFoundError"
  | permission => "PermissionError"
  | timeout => "TimeoutError"
  | importing => "ImportError"
  | moduleNotFound => "ModuleNotFoundError"
  | stopIteration => "StopIteration"
  | arithmetic => "ArithmeticError"
  | zeroDivision => "ZeroDivisionError"
  | overflow => "OverflowError"
  | assertion => "AssertionError"
  | naming => "NameError"
  | memory => "MemoryError"
  | endOfInput => "EOFError"
  | buffer => "BufferError"
  | reference => "ReferenceError"
  | system => "SystemError"
  | document => "TOMLDecodeError"
  | library => "SymbiosisError"
  | unresolved => "UnresolvedMemberError"
  | missingClosure => "MissingClosureError"
  | direction => "InvalidDirectionError"
  | interrupt => "KeyboardInterrupt"
  | exit => "SystemExit"
  | generatorExit => "GeneratorExit"
  | other name => name

/-- The kinds that have a fixed class name. -/
def fixed : List Kind :=
  [failure, attr, type, value, unicode, lookup, key, index, notImplemented, runtime, recursion, os,
    fileNotFound, permission, timeout, importing, moduleNotFound, stopIteration, arithmetic,
    zeroDivision, overflow, assertion, naming, memory, endOfInput, buffer, reference, system,
    document, library, unresolved, missingClosure, direction, interrupt, exit, generatorExit]

/-- The kind of a given class name. -/
def ofClassName (s : String) : Kind := (fixed.find? fun k => k.className == s).getD (other s)

end Kind

namespace NativeClass

/-- The name of a native class. -/
def name : NativeClass → String
  | object => "object"
  | type => "type"
  | nothing => "NoneType"
  | bool => "bool"
  | int => "int"
  | float => "float"
  | str => "str"
  | bytes => "bytes"
  | range => "range"
  | list => "list"
  | tuple => "tuple"
  | dict => "dict"
  | proxy => "mappingproxy"
  | function => "function"
  | method => "method"
  | builtin => "builtin_function_or_method"
  | module => "module"
  | property => "property"
  | staticMethod => "staticmethod"
  | classMethod => "classmethod"
  | slotMember => "member_descriptor"
  | getset => "getset_descriptor"
  | methodMember => "method_descriptor"
  | wrapper => "wrapper_descriptor"
  | classMethodMember => "classmethod_descriptor"
  | space => "SimpleNamespace"
  | partialCall => "partial"
  | group => "ContextGroup"
  | groupType => "EnumType"
  | direction => "Direction"
  | scope => "Scope"
  | resolverType => "ABCMeta"
  | resolverBase => "Trigger"
  | resolver name => name
  | capsule => "Isolator"
  | closure => "Closure"
  | callable => "CallableObject"
  | code => "code"
  | cell => "cell"
  | descriptor .. => "Descr"
  | named name => name

/-- The name of a native class in messages of the attribute protocol. -/
def fullName : NativeClass → String
  | space => "types.SimpleNamespace"
  | partialCall => "functools.partial"
  | c => c.name

/-- The home of the classes that do not belong to the kernel module. -/
def home : NativeClass → String
  | space => "types"
  | partialCall => "functools"
  | group | direction => "symbiosis.direction"
  | groupType => "enum"
  | scope | resolverBase | resolver _ => "symbiosis.trigger.base"
  | resolverType => "abc"
  | capsule => "symbiosis.isolator"
  | closure => "symbiosis.closure"
  | callable | descriptor .. => "world"
  | _ => "builtins"

/-- Whether a native class belongs to the kernel module or is an unnamed part of it. -/
def isBuiltin (c : NativeClass) : Bool := c.home == "builtins"

/-- The classes above a native class, nearest first; `object` stands above all and is left out. -/
def above : NativeClass → List NativeClass
  | bool => [int]
  | group => [str]
  | groupType => [type]
  | resolverType => [type]
  | resolver _ => [resolverBase]
  | _ => []

/-- The **resolution line** of a native class: itself, then the classes above it. -/
def line (c : NativeClass) : List NativeClass :=
  if c = object then [object] else c :: c.above ++ [object]

/-- The class of a native class. -/
def metaclass : NativeClass → NativeClass
  | group => groupType
  | resolverBase | resolver _ => resolverType
  | _ => type

/-! ### Members -/

/-- The methods of the instances. -/
def methods : NativeClass → List String
  | object => ["__reduce_ex__", "__reduce__", "__getstate__", "__format__", "__sizeof__", "__dir__"]
  | type => ["mro", "__subclasses__", "__instancecheck__", "__subclasscheck__", "__dir__",
      "__sizeof__"]
  | int => ["conjugate", "bit_length", "bit_count", "to_bytes", "as_integer_ratio", "__trunc__",
      "__floor__", "__ceil__", "__round__", "__getnewargs__", "__format__", "__sizeof__"]
  | float => ["conjugate", "__trunc__", "__floor__", "__ceil__", "__round__", "as_integer_ratio",
      "hex", "is_integer", "__getnewargs__", "__format__"]
  | str => ["encode", "replace", "split", "rsplit", "join", "capitalize", "casefold", "title",
      "center", "count", "expandtabs", "find", "partition", "index", "ljust", "lower", "lstrip",
      "rfind", "rindex", "rjust", "rstrip", "rpartition", "splitlines", "strip", "swapcase",
      "translate", "upper", "startswith", "endswith", "removeprefix", "removesuffix", "isascii",
      "islower", "isupper", "istitle", "isspace", "isdecimal", "isdigit", "isnumeric", "isalpha",
      "isalnum", "isidentifier", "isprintable", "zfill", "format", "format_map", "__format__",
      "__sizeof__", "__getnewargs__"]
  | bytes => ["__getnewargs__", "__bytes__", "capitalize", "center", "count", "decode", "endswith",
      "expandtabs", "find", "hex", "index", "isalnum", "isalpha", "isascii", "isdigit", "islower",
      "isspace", "istitle", "isupper", "join", "ljust", "lower", "lstrip", "partition", "replace",
      "removeprefix", "removesuffix", "rfind", "rindex", "rjust", "rpartition", "rsplit", "rstrip",
      "split", "splitlines", "startswith", "strip", "swapcase", "title", "translate", "upper",
      "zfill"]
  | range => ["__reversed__", "__reduce__", "count", "index"]
  | list => ["__getitem__", "__reversed__", "__sizeof__", "clear", "copy", "append", "insert",
      "extend", "pop", "remove", "index", "count", "reverse", "sort"]
  | tuple => ["__getnewargs__", "index", "count"]
  | dict => ["__getitem__", "__contains__", "__sizeof__", "get", "setdefault", "pop", "popitem",
      "keys", "items", "values", "update", "clear", "copy", "__reversed__"]
  | proxy => ["get", "keys", "values", "items", "copy", "__reversed__"]
  | method => ["__reduce__"]
  | builtin => ["__reduce__"]
  | module => ["__dir__"]
  | property => ["getter", "setter", "deleter", "__set_name__"]
  | slotMember | getset | methodMember | wrapper => ["__reduce__"]
  | space => ["__reduce__"]
  | partialCall => ["__reduce__", "__setstate__"]
  | resolverBase => ["arranged_contexts", "flattened_contexts", "resolve", "responds_to", "member",
      "method_handle", "call", "explain", "run", "_matched", "_unresolved", "_resolve_member"]
  | capsule => ["trigger", "public_trigger", "private_trigger", "evaluate", "evaluate_private",
      "public_method", "private_method"]
  | direction => ["arrange", "flatten", "__iter__", "__len__"]
  | _ => []

/-- The wrappers of operations: those by which the attribute protocol decides, and the common
ones. -/
def wrappers : NativeClass → List String
  | object => ["__repr__", "__hash__", "__str__", "__getattribute__", "__setattr__", "__delattr__",
      "__lt__", "__le__", "__eq__", "__ne__", "__gt__", "__ge__", "__init__"]
  | type => ["__repr__", "__call__", "__getattribute__", "__setattr__", "__delattr__", "__init__",
      "__or__", "__ror__"]
  | nothing => ["__repr__", "__bool__"]
  | bool => ["__repr__", "__and__", "__or__", "__xor__"]
  | int | float => ["__repr__", "__hash__", "__lt__", "__le__", "__eq__", "__ne__", "__gt__",
      "__ge__", "__add__", "__sub__", "__mul__", "__mod__", "__neg__", "__pos__", "__abs__",
      "__bool__", "__int__", "__float__", "__floordiv__", "__truediv__"]
  | str | bytes => ["__repr__", "__hash__", "__str__", "__lt__", "__le__", "__eq__", "__ne__",
      "__gt__", "__ge__", "__iter__", "__mod__", "__len__", "__getitem__", "__add__", "__mul__",
      "__contains__"]
  | range => ["__repr__", "__hash__", "__lt__", "__le__", "__eq__", "__ne__", "__gt__", "__ge__",
      "__iter__", "__bool__", "__len__", "__getitem__", "__contains__"]
  | list | tuple => ["__repr__", "__lt__", "__le__", "__eq__", "__ne__", "__gt__", "__ge__",
      "__iter__", "__len__", "__add__", "__mul__", "__contains__"]
  | dict | proxy => ["__repr__", "__lt__", "__le__", "__eq__", "__ne__", "__gt__", "__ge__",
      "__iter__", "__or__", "__len__"]
  | function => ["__repr__", "__call__", "__get__"]
  | method => ["__repr__", "__hash__", "__call__", "__getattribute__", "__eq__"]
  | builtin => ["__repr__", "__hash__", "__call__", "__eq__"]
  | module => ["__repr__", "__getattribute__", "__setattr__", "__delattr__", "__init__"]
  | property => ["__get__", "__set__", "__delete__", "__init__"]
  | staticMethod => ["__repr__", "__call__", "__get__", "__init__"]
  | classMethod => ["__repr__", "__get__", "__init__"]
  | slotMember | getset => ["__repr__", "__get__", "__set__", "__delete__"]
  | methodMember | wrapper | classMethodMember => ["__repr__", "__call__", "__get__"]
  | space => ["__repr__", "__lt__", "__le__", "__eq__", "__ne__", "__gt__", "__ge__",
      "__init__"]
  | partialCall => ["__repr__", "__call__", "__setattr__", "__delattr__"]
  | _ => []

/-- The computed fields of the instances. -/
def fields : NativeClass → List String
  | object => ["__class__"]
  | type => ["__name__", "__qualname__", "__bases__", "__module__", "__abstractmethods__",
      "__dict__", "__doc__", "__text_signature__", "__annotations__"]
  | int => ["real", "imag", "numerator", "denominator"]
  | float => ["real", "imag"]
  | function => ["__code__", "__defaults__", "__kwdefaults__", "__annotations__", "__dict__",
      "__name__", "__qualname__"]
  | method => ["__doc__"]
  | builtin => ["__doc__", "__name__", "__qualname__", "__self__", "__text_signature__"]
  | module => ["__annotations__"]
  | property => ["__isabstractmethod__"]
  | staticMethod | classMethod => ["__isabstractmethod__", "__dict__"]
  | slotMember | getset => ["__doc__", "__qualname__"]
  | partialCall => ["__dict__"]
  | group => ["name", "value", "letter"]
  | direction => ["__dict__", "groups", "name", "is_valid"]
  | code => ["co_freevars"]
  | cell => ["cell_contents"]
  | closure | callable | descriptor .. => ["__dict__"]
  | resolverBase => ["__dict__", "introspector", "closure", "direction", "inner_contexts",
      "outer_context", "kernel_context"]
  | capsule => ["__dict__", "closure", "default_direction", "visibility"]
  | _ => []

/-- The storage slots of the instances. -/
def slots : NativeClass → List String
  | type => ["__basicsize__", "__itemsize__", "__flags__", "__weakrefoffset__", "__base__",
      "__dictoffset__", "__mro__"]
  | range => ["start", "stop", "step"]
  | function => ["__closure__", "__doc__", "__globals__", "__module__", "__builtins__"]
  | method => ["__func__", "__self__"]
  | builtin => ["__module__"]
  | module | space => ["__dict__"]
  | property => ["fget", "fset", "fdel", "__doc__"]
  | staticMethod | classMethod => ["__func__", "__wrapped__"]
  | slotMember | getset | methodMember | wrapper | classMethodMember => ["__objclass__", "__name__"]
  | partialCall => ["func", "args", "keywords"]
  | scope => ["_Scope__trigger"]
  | _ => []

/-- The methods of the class itself. -/
def classMethods : NativeClass → List String
  | object => ["__subclasshook__", "__init_subclass__"]
  | type => ["__prepare__"]
  | int => ["from_bytes"]
  | float => ["fromhex"]
  | bytes => ["fromhex"]
  | dict => ["fromkeys", "__class_getitem__"]
  | list | tuple => ["__class_getitem__"]
  | direction => ["parse"]
  | _ => []

/-- The members that are values of their own. -/
def values : NativeClass → Members
  | object => [("__new__", .nativeFn "__new__"), ("__doc__", .none)]
  | type => [("__new__", .nativeFn "__new__")]
  | nothing => [("__new__", .nativeFn "__new__"), ("__doc__", .none)]
  | str => [("maketrans", .nativeFn "maketrans")]
  | bytes => [("maketrans", .nativeFn "maketrans")]
  | group => [("__module__", .str "symbiosis.direction"), ("INNER", .group .inner),
      ("OUTER", .group .outer), ("KERNEL", .group .kernel)]
  | scope => [("__module__", .str "symbiosis.trigger.base"), ("__doc__", .none),
      ("__slots__", .tuple [.str "__trigger"]), ("__init__", .libFn .scopeInit),
      ("__getattr__", .libFn .scopeGet), ("__setattr__", .libFn .scopeSet),
      ("__delattr__", .libFn .scopeDelete), ("__dir__", .libFn .scopeDir),
      ("__repr__", .libFn .scopeText)]
  | resolverBase => [("__module__", .str "symbiosis.trigger.base"), ("visibility", .str ""),
      ("__repr__", .libFn .resolverText)]
  | capsule => [("__module__", .str "symbiosis.isolator"), ("__call__", .libFn .capsuleCall),
      ("__repr__", .libFn .capsuleText)]
  | closure => [("__module__", .str "symbiosis.closure"), ("__call__", .libFn .closureCall),
      ("wrap", .classMethod (.libFn .closureWrap)), ("__repr__", .libFn .closureText)]
  | callable => [("__module__", .str "world"), ("__call__", .libFn .callableCall),
      ("__repr__", .libFn .callableText)]
  | direction => [("__module__", .str "symbiosis.direction"), ("__repr__", .libFn .directionText)]
  | descriptor get set delete => [("__module__", .str "world")]
      ++ (if get then [("__get__", .libFn .descriptorGet)] else [])
      ++ (if set then [("__set__", .libFn .descriptorSet)] else [])
      ++ (if delete then [("__delete__", .libFn .descriptorDelete)] else [])
  | _ => []

/-- The member of a native class under a name. -/
def member? (c : NativeClass) (name : String) : Option Value :=
  match c.values.find? name with
  | some v => some v
  | none =>
    let raw (kind : NativeKind) : Option Value := some (.nativeMember (.native c) kind name)
    if c.methods.contains name then raw .method
    else if c.wrappers.contains name then raw .wrapper
    else if c.fields.contains name then raw .getset
    else if c.slots.contains name then raw .slot
    else if c.classMethods.contains name then raw .classMethod
    else none

/-- All members of a native class. -/
def members (c : NativeClass) : Members :=
  let raw (kind : NativeKind) (names : List String) : Members :=
    names.map fun name => (name, .nativeMember (.native c) kind name)
  c.values ++ raw .method c.methods ++ raw .wrapper c.wrappers ++ raw .getset c.fields
    ++ raw .slot c.slots ++ raw .classMethod c.classMethods

end NativeClass

/-! ### The kernel module -/

/-- The functions of the kernel module. -/
def kernelFunctions : List String :=
  ["__build_class__", "__import__", "abs", "aiter", "all", "anext", "any", "ascii", "bin",
    "breakpoint", "callable", "chr", "compile", "delattr", "dir", "divmod", "eval", "exec",
    "format", "getattr", "globals", "hasattr", "hash", "hex", "id", "input", "isinstance",
    "issubclass", "iter", "len", "locals", "max", "min", "next", "oct", "open", "ord", "pow",
    "print", "repr", "round", "setattr", "sorted", "sum", "vars"]

/-- The classes of the kernel module that have a table of members here. -/
def kernelClasses : List NativeClass :=
  [.object, .type, .bool, .int, .float, .str, .bytes, .range, .list, .tuple, .dict, .property,
    .staticMethod, .classMethod]

/-- The further classes of the kernel module. -/
def kernelClassNames : List String :=
  ["bytearray", "complex", "enumerate", "filter", "frozenset", "map", "memoryview", "reversed",
    "set", "slice", "super", "zip", "ArithmeticError", "AssertionError", "AttributeError",
    "BaseException", "BaseExceptionGroup", "BlockingIOError", "BrokenPipeError", "BufferError",
    "BytesWarning", "ChildProcessError", "ConnectionAbortedError", "ConnectionError",
    "ConnectionRefusedError", "ConnectionResetError", "DeprecationWarning", "EOFError",
    "EncodingWarning", "EnvironmentError", "Exception", "ExceptionGroup", "FileExistsError",
    "FileNotFoundError", "FloatingPointError", "FutureWarning", "GeneratorExit", "IOError",
    "ImportError", "ImportWarning", "IndentationError", "IndexError", "InterruptedError",
    "IsADirectoryError", "KeyError", "KeyboardInterrupt", "LookupError", "MemoryError",
    "ModuleNotFoundError", "NameError", "NotADirectoryError", "NotImplementedError", "OSError",
    "OverflowError", "PendingDeprecationWarning", "PermissionError", "ProcessLookupError",
    "RecursionError", "ReferenceError", "ResourceWarning", "RuntimeError", "RuntimeWarning",
    "StopAsyncIteration", "StopIteration", "SyntaxError", "SyntaxWarning", "SystemError",
    "SystemExit", "TabError", "TimeoutError", "TypeError", "UnboundLocalError",
    "UnicodeDecodeError", "UnicodeEncodeError", "UnicodeError", "UnicodeTranslateError",
    "UnicodeWarning", "UserWarning", "ValueError", "Warning", "ZeroDivisionError"]

/-- The further objects of the kernel module, each beside the name of its class. -/
def kernelObjects : List (String × String) :=
  [("__loader__", "type"), ("__spec__", "ModuleSpec"), ("Ellipsis", "ellipsis"),
    ("NotImplemented", "NotImplementedType"), ("copyright", "_Printer"), ("credits", "_Printer"),
    ("exit", "Quitter"), ("help", "_Helper"), ("license", "_Printer"), ("quit", "Quitter")]

/-- The members of the kernel module. -/
def kernelMembers : Members :=
  [("__name__", .str "builtins"), ("__doc__", .none), ("__package__", .str ""),
    ("__debug__", .bool true), ("None", .none), ("True", .bool true), ("False", .bool false)]
    ++ kernelFunctions.map (fun name => (name, .nativeFn name))
    ++ kernelClasses.map (fun c => (c.name, .cls (.native c)))
    ++ kernelClassNames.map (fun name => (name, .cls (.native (.named name))))
    ++ kernelObjects.map fun (name, className) => (name, .foreign className)

end OrderedScope
