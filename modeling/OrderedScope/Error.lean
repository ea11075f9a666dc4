import OrderedScope.Object.Value
import OrderedScope.Text.Quoted

/-!
# Errors

What can go wrong, by cause. Every error has a kind, by which handlers select it, and a message. The
message is fixed when the error is raised, but for a missing key that is no text: its message is the
text of the key, which is written anew whenever it is asked for.
-/

namespace OrderedScope

/-- The **errors**, by cause. -/
inductive Error where
  /-- Raised on purpose, by code of the world. -/
  | raised (kind : Kind) (text : String)
  /-- No context answers a name. -/
  | unresolved (name : String) (direction visibility : Option String)
  /-- A closure is needed and none was given. -/
  | missingClosure
  /-- Something that is no direction was given for one; `shown` is its text. -/
  | badDirection (given : Value) (shown : String)
  /-- An object of a class lacks an attribute. -/
  | noAttribute (className name : String)
  /-- An object of a class has no place for an attribute, or none to delete. -/
  | noPlace (className name : String)
  | noClassAttribute (className name : String)
  | noModuleAttribute (module : Option String) (name : String)
  /-- An attribute lives in the class, and the object cannot hold one of its own. -/
  | fixedAttribute (className name : String)
  /-- A computed member lacks the accessor that is needed. -/
  | noAccessor (accessor : String) (name : Option String) (className : String)
  /-- The message is nothing but a name. -/
  | bareAttribute (name : String)
  | immutableClass (className name : String)
  /-- Scopes cannot be changed; `verb` says what was tried. -/
  | readOnlyScope (verb name : String)
  | notCallable (className : String)
  /-- A name was resolved to something that cannot be called. -/
  | nonCallableMember (name className : String)
  | nonCallableClosure (className : String)
  /-- A function that needs an argument was called without one. -/
  | noArgument
  | notIterable (className : String)
  | notSubscriptable (className : String)
  | unhashable (className : String)
  /-- There is no running evaluation. -/
  | noScope
  /-- A key is not in a table. -/
  | noKey (key : String)
  /-- A key that is no text is not in a table. -/
  | noItem (key : Value)
  | unknownVisibility (shown : String) (available : List String)
  | noModule (name : String) (parent : Option String)
  | emptyReference
  | malformedReference (text : String)
  | relativeReference (text : String)
  | unknownSettings (place : String) (names : List String)
  | unknownProfile (shown : String) (available : List String)
  | configuredDirection (given : Value) (shown : String)
  | noSettingsFile (start : String)
  | profileWithoutFile (shown : String)
  /-- The text of a settings file cannot be read. -/
  | malformedDocument
  | unmarkable
  /-- Any other misuse of a value. -/
  | misuse (kind : Kind) (text : String)

namespace Error

/-- The **kind** of an error. -/
def kind : Error → Kind
  | raised k _ => k
  | unresolved .. => .unresolved
  | missingClosure => .missingClosure
  | badDirection .. => .direction
  | noAttribute .. | noPlace .. | noClassAttribute .. | noModuleAttribute ..
  | fixedAttribute .. | noAccessor .. | bareAttribute .. | readOnlyScope .. => .attr
  | immutableClass .. | notCallable .. | nonCallableMember .. | nonCallableClosure ..
  | notIterable .. | notSubscriptable .. | unhashable .. | relativeReference ..
  | unmarkable => .type
  | noArgument => .index
  | noScope => .lookup
  | noKey .. | noItem .. => .key
  | unknownVisibility .. | emptyReference | malformedReference .. | unknownSettings ..
  | unknownProfile .. | configuredDirection .. | profileWithoutFile .. => .value
  | noModule .. => .moduleNotFound
  | noSettingsFile .. => .fileNotFound
  | malformedDocument => .document
  | misuse k _ => k

/-- The names of the settings, in the order in which messages list them. -/
def settingNames : List String := ["direction", "visibility", "kernel"]

/-- The name of the settings file. -/
def settingsFile : String := ".symbiosis.toml"

/-- The names as a list of quoted texts. -/
def quotedList (names : List String) : String :=
  "[" ++ ", ".intercalate (names.map Text.quote) ++ "]"

/-- What a text is rejected with when it is no direction. -/
def directionMessage (shown : String) : String :=
  "Incompatible context direction " ++ shown
    ++ ". You should use one of: IOK, OIK, OKI, IKO, KOI, KIO."

/-- What an unanswered name is reported with. -/
def unresolvedMessage (name : String) (direction visibility : Option String) : String :=
  let setting := match direction with
    | none => ""
    | some d => " (direction=" ++ d ++ (visibility.elim "" (", visibility=" ++ ·)) ++ ")"
  "No one is able to respond to " ++ Text.quote name ++ setting

/-- The message of an error that code of the world raised: a missing key is shown quoted, and the
kinds of this library word their own. -/
def raisedMessage (k : Kind) (text : String) : String :=
  match k with
  | .key => Text.quote text
  | .unresolved => unresolvedMessage text none none
  | .direction => directionMessage (Text.quote text)
  | _ => text

/-- The **message** of an error, as far as it is fixed. -/
def message : Error → String
  | raised k text => raisedMessage k text
  | unresolved name d v => unresolvedMessage name d v
  | missingClosure => "You should provide a closure"
  | badDirection _ shown => directionMessage shown
  | noAttribute c name => Text.encloseUpTo 50 c ++ " object has no attribute "
      ++ Text.enclose name
  | noPlace c name => Text.encloseUpTo 100 c ++ " object has no attribute " ++ Text.enclose name
  | noClassAttribute c name => "type object " ++ Text.encloseUpTo 50 c ++ " has no attribute "
      ++ Text.enclose name
  | noModuleAttribute m name => "module" ++ m.elim "" (" " ++ Text.enclose ·)
      ++ " has no attribute " ++ Text.enclose name
  | fixedAttribute c name => Text.encloseUpTo 50 c ++ " object attribute " ++ Text.enclose name
      ++ " is read-only"
  | noAccessor accessor name c => "property" ++ name.elim "" (" " ++ Text.quote ·) ++ " of "
      ++ Text.quote c ++ " object has no " ++ accessor
  | bareAttribute name => name
  | immutableClass c name => "cannot set " ++ Text.quote name ++ " attribute of immutable type "
      ++ Text.enclose c
  | readOnlyScope verb name => "scope is read-only; cannot " ++ verb ++ " " ++ Text.quote name
  | notCallable c => Text.encloseUpTo 200 c ++ " object is not callable"
  | nonCallableMember name c => Text.quote name ++ " resolved to a non-callable " ++ c
  | nonCallableClosure c => "closure must be callable, got " ++ c
  | noArgument => "tuple index out of range"
  | notIterable c => Text.encloseUpTo 200 c ++ " object is not iterable"
  | notSubscriptable c => Text.encloseUpTo 200 c ++ " object is not subscriptable"
  | unhashable c => "unhashable type: " ++ Text.encloseUpTo 200 c
  | noScope => "<ContextVar name='symbiosis_scope' at 0xADDR>"
  | noKey key => Text.quote key
  | noItem _ => ""
  | unknownVisibility shown available => "Unknown trigger visibility: " ++ shown
      ++ ". Available: " ++ quotedList available
  | noModule name parent => "No module named " ++ Text.quote name
      ++ parent.elim "" fun p => "; " ++ Text.quote p ++ " is not a package"
  | emptyReference => "Empty reference string"
  | malformedReference text => "Invalid reference format: " ++ text
      ++ ". Expected 'module:attr'"
  | relativeReference text =>
      "the 'package' argument is required to perform a relative import for " ++ Text.quote text
  | unknownSettings place names => "Unknown setting(s) in " ++ place ++ ": "
      ++ ", ".intercalate names ++ ". Allowed: " ++ ", ".intercalate settingNames
  | unknownProfile shown available => "Unknown profile " ++ shown ++ ". Available profiles: "
      ++ if available.isEmpty then "(none)" else ", ".intercalate available
  | configuredDirection _ shown => "Invalid direction in config: " ++ directionMessage shown
  | noSettingsFile start => "Could not find " ++ settingsFile ++ " in " ++ start
      ++ " or any parent directory"
  | profileWithoutFile shown => "Profile " ++ shown ++ " requested but no " ++ settingsFile
      ++ " was found"
  | malformedDocument => ""
  | unmarkable => "cannot restrict a property without a getter"
  | misuse _ text => text

/-- Whether the message of an error is fixed. -/
def isWorded : Error → Bool
  | noItem _ => false
  | _ => true

/-- Whether a handler of a kind handles the error. -/
def isA (e : Error) (handled : Kind) : Bool := e.kind.isA handled

/-- Whether an error **can be held back**: it is ordinary, and its message is fixed. -/
def isHeldBack (e : Error) : Bool := e.isA .failure && e.isWorded

end Error

end OrderedScope
