import OrderedScope.Attribute.Equality
import OrderedScope.Lookup
import OrderedScope.Proofs.Steps

/-!
# The Course of Asking a Context

Reading, setting and deleting an attribute, walking the tables of a value, and asking a context for
a name follow their runner: they change the world by single changes and hand everything else to it.
No rule here assumes anything of the runner.

## Main results

* `Attribute.follows_get`, `Attribute.follows_update`: the attribute protocol follows its runner.
* `Strategy.follows_respondsTo`, `Strategy.follows_lookup`: so does asking a context.
-/

namespace OrderedScope

variable {m : Hearing} {run : Runner}

@[grind ←] instance follows_classNameOf (v : Value) : Follows m run (classNameOf v) := by
  unfold classNameOf
  grind

namespace Value

@[grind ←] instance follows_itemsByClass (v : Value) : Follows m run (itemsByClass v) := by
  unfold itemsByClass
  grind

@[grind ←] instance follows_items (v : Value) : Follows m run (items v) := by
  unfold items
  grind

@[grind ←] instance follows_hasKey (v : Value) (key : String) : Follows m run (hasKey v key) := by
  unfold hasKey
  grind

@[grind ←] instance follows_itemAt (v : Value) (key : String) : Follows m run (itemAt v key) := by
  unfold itemAt
  grind

@[grind ←] instance follows_joinTuple (v : Value) (more : Value) :
    Follows m run (joinTuple v more) := by
  unfold joinTuple
  grind

@[grind ←] instance follows_plainTruth (v : Value) : Follows m run (plainTruth v) := by
  unfold plainTruth
  grind

@[grind ←] instance follows_truthOf (answer : Value) : Follows m run (truthOf answer) := by
  unfold truthOf
  grind

end Value

namespace Attribute

@[grind ←] instance follows_field (owner : ClassRef) (name : String) (v : Value) :
    Follows m run (field owner name v) := by
  refine .get_bind (fun w => by simp) fun w => ?_
  exact .elim (.raise _) fun _ _ => .pure _

@[grind ←] instance follows_slotField (owner : Nat) (name : String) (v : Value) :
    Follows m run (slotField owner name v) := by
  unfold slotField
  grind

@[grind ←] instance follows_bind (raw : Value) (inst : Option Value) (owner : ClassRef) :
    Follows m run (bind run raw inst owner) := by
  unfold bind
  split <;> grind [Follows.task run]

@[grind ←] instance follows_objectGet (v : Value) (name : String) :
    Follows m run (objectGet run v name) := by
  unfold objectGet
  grind

@[grind ←] instance follows_classGet (c : ClassRef) (name : String) :
    Follows m run (classGet run c name) := by
  unfold classGet
  grind

@[grind ←] instance follows_moduleGet (v : Value) (name : String) :
    Follows m run (moduleGet run v name) := by
  unfold moduleGet
  grind [Follows.task run]

@[grind ←] instance follows_methodGet (v f : Value) (name : String) :
    Follows m run (methodGet run v f name) := by
  unfold methodGet
  grind

@[grind ←] instance follows_standardGet (v : Value) (name : String) :
    Follows m run (standardGet run v name) := by
  unfold standardGet
  grind

@[grind ←] instance follows_callHook (hook v : Value) (args : List Value) :
    Follows m run (callHook run hook v args) := by
  unfold callHook
  grind [Follows.task run]

@[grind ←] instance follows_ask? (v : Value) (name : String) (args : List Value) :
    Follows m run (ask? run v name args) := by
  unfold ask?
  grind

@[grind ←] instance follows_numberOf (v : Value) : Follows m run (v.numberOf run) := by
  unfold Value.numberOf
  grind

@[grind ←] instance follows_lengthOf (answer : Value) : Follows m run (answer.lengthOf run) := by
  unfold Value.lengthOf
  grind

@[grind ←] instance follows_truthByClass (v : Value) : Follows m run (v.truthByClass run) := by
  unfold Value.truthByClass
  grind

@[grind ←] instance follows_truthy (v : Value) : Follows m run (v.truthy run) := by
  unfold Value.truthy
  grind

@[grind ←] instance follows_frontGet (v : Value) (name : String) :
    Follows m run (frontGet run v name) := by
  unfold frontGet
  grind

@[grind ←] instance follows_get (v : Value) (name : String) : Follows m run (get run v name) := by
  unfold get
  grind

@[grind ←] instance follows_get? (v : Value) (name : String) : Follows m run (get? run v name) := by
  unfold get?
  grind

@[grind ←] instance follows_has (v : Value) (name : String) : Follows m run (has run v name) := by
  unfold has
  grind

@[grind ←] instance follows_isInstance (v : Value) (c : ClassRef) :
    Follows m run (isInstance run v c) := by
  unfold isInstance
  grind


@[grind ←] instance follows_updateSlot (owner : Nat) (name : String) (v : Value)
    (new : Option Value) : Follows m run (updateSlot owner name v new) := by
  refine .get_bind (fun w => by simp) fun w => ?_
  cases v with
  | object i =>
      cases new with
      | some x =>
          exact .slots i fun s => ((owner, name), x) :: s.filter fun e => e.1 != (owner, name)
      | none =>
          simp only
          split
          · exact .raise _
          · exact .slots i fun s => s.filter fun e => e.1 != (owner, name)
  | _ => exact .raise _

@[grind ←] instance follows_updateMember (raw v : Value) (new : Option Value) :
    Follows m run (updateMember run raw v new) := by
  refine .get_bind (fun w => by simp) fun w => ?_
  split
  all_goals grind [Follows.task run]

@[grind ←] instance follows_objectUpdate (v : Value) (name : String) (new : Option Value) :
    Follows m run (objectUpdate run v name new) := by
  refine .get_bind (fun w => by simp) fun w => ?_
  cases new with
  | some x =>
      have put : Follows m run (modify (·.mapAttrs v (·.put name x)) : Run Unit) := .mapAttrs v _
      grind
  | none =>
      have erase : Follows m run (modify (·.mapAttrs v (·.erase name)) : Run Unit) := .mapAttrs v _
      grind

@[grind ←] instance follows_classUpdate (c : ClassRef) (name : String) (new : Option Value) :
    Follows m run (classUpdate run c name new) := by
  refine .get_bind (fun w => by simp) fun w => ?_
  cases new with
  | some x =>
      have put : Follows m run (modify (·.mapAttrs (.cls c) (·.put name x)) : Run Unit) :=
        .mapAttrs _ _
      grind
  | none =>
      have erase : Follows m run (modify (·.mapAttrs (.cls c) (·.erase name)) : Run Unit) :=
        .mapAttrs _ _
      grind

@[grind ←] instance follows_update (v : Value) (name : String) (new : Option Value) :
    Follows m run (update run v name new) := by
  unfold update
  grind

@[grind ←] instance follows_set (v : Value) (name : String) (x : Value) :
    Follows m run (set run v name x) := by
  unfold set
  grind

@[grind ←] instance follows_delete (v : Value) (name : String) :
    Follows m run (delete run v name) := by
  unfold delete
  grind


@[grind ←] instance follows_heldByInstance? (v : Value) (name : String) :
    Follows m run (heldByInstance? run v name) := by
  unfold heldByInstance?
  grind

@[grind ←] instance follows_heldByClass? (c : ClassRef) (name : String) :
    Follows m run (heldByClass? run c name) := by
  unfold heldByClass?
  grind

@[grind ←] instance follows_heldAlong? (name : String) (line : List ClassRef) :
    Follows m run (heldAlong? run name line) := by
  induction line <;> grind [heldAlong?]

@[grind ←] instance follows_heldInLine? (c : ClassRef) (name : String) :
    Follows m run (heldInLine? run c name) := by
  unfold heldInLine?
  grind

@[grind ←] instance follows_selected? (v : Value) (name : String) :
    Follows m run (selected? run v name) := by
  unfold selected?
  split
  · grind
  · refine (follows_heldByInstance? v name).bind fun own =>
      (Follows.reading (by simp)).bind fun c => (follows_heldInLine? c name).bind fun member => ?_
    split <;> grind

@[grind ←] instance follows_held? (v : Value) (name : String) :
    Follows m run (held? run v name) := by
  unfold held?
  grind

@[grind ←] instance follows_readSlot (raw v : Value) : Follows m run (readSlot run raw v) := by
  unfold readSlot
  grind [Follows.task run]

@[grind ←] instance follows_isEmptySlot (raw v : Value) :
    Follows m run (isEmptySlot run raw v) := by
  unfold isEmptySlot
  grind

@[grind ←] instance follows_hasPlainHook (hook : String) (line : List Value) :
    Follows m run (hasPlainHook run hook line) := by
  induction line <;> grind [hasPlainHook]

@[grind ←] instance follows_classHasPlainHook (c : ClassRef) (hook : String) :
    Follows m run (classHasPlainHook run c hook) := by
  unfold classHasPlainHook
  grind

@[grind ←] instance follows_overridesProtocol (v : Value) (name : String) :
    Follows m run (overridesProtocol run v name) := by
  unfold overridesProtocol
  grind

@[grind ←] instance follows_typeChain (v : Value) : Follows m run (typeChain run v) := by
  unfold typeChain
  grind

@[grind ←] instance follows_entryAlong? (name : String) (line : List Value) :
    Follows m run (entryAlong? run name line) := by
  induction line <;> grind [entryAlong?]

@[grind ←] instance follows_controlsBoth (raw : Value) : Follows m run (controlsBoth run raw) := by
  unfold controlsBoth
  grind

@[grind ←] instance follows_ownTable? (v : Value) : Follows m run (ownTable? run v) := by
  refine Follows.bind (.recover (by grind) (by grind)) fun found => ?_
  split <;> grind

@[grind ←] instance follows_uncontrolled? (v : Value) (name : String) (member : Option Value) :
    Follows m run (uncontrolled? run v name member) := by
  unfold uncontrolled?
  grind

@[grind ←] instance follows_walk? (v : Value) (name : String) :
    Follows m run (walk? run v name) := by
  unfold walk?
  refine (follows_typeChain v).bind fun line =>
    (follows_entryAlong? name line).bind fun member => ?_
  rcases member.bind Value.known? with _ | raw <;> grind

@[grind ←] instance follows_bindEntry (raw v : Value) : Follows m run (bindEntry run raw v) := by
  unfold bindEntry
  grind [Follows.task run]

@[grind ←] instance follows_tableNames (v : Value) : Follows m run (tableNames run v) := by
  unfold tableNames
  grind

end Attribute

namespace Value

@[grind ←] instance follows_contentOf (text : Value) : Follows m run (contentOf text) := by
  unfold contentOf
  grind

@[grind ←] instance follows_textOf (source : String) (answer : Value) :
    Follows m run (textOf source answer) := by
  unfold textOf
  grind

@[grind ←] instance follows_joinTexts (place : Nat) (texts : List Value) :
    Follows m run (joinTexts place texts) := by
  induction texts generalizing place <;> grind [joinTexts]

@[grind ←] instance follows_letters (entries : List Value) :
    Follows m run (letters run entries) := by
  unfold letters
  grind

@[grind ←] instance follows_directionName (v : Value) : Follows m run (directionName run v) := by
  cases v <;> grind [directionName]

@[grind ←] instance follows_plainText (v : Value) : Follows m run (plainText run v) := by
  unfold plainText
  split <;> grind [Follows.task run]

@[grind ←] instance follows_formattedOf (answer : Value) : Follows m run (formattedOf answer) := by
  unfold formattedOf
  grind

@[grind ←] instance follows_formatted (v : Value) : Follows m run (formatted run v) := by
  unfold formatted
  grind

@[grind ←] instance follows_quotedText (v : Value) : Follows m run (quotedText run v) := by
  unfold quotedText
  grind [Follows.task run]

/-! ### Equality and hashing -/

@[grind ←] instance follows_asksEqual (v other : Value) :
    Follows m run (asksEqual run v other) := by
  unfold asksEqual
  grind

@[grind ←] instance follows_equalsText (s : String) (key : Value) :
    Follows m run (equalsText run s key) := by
  unfold equalsText
  grind

@[grind ←] instance follows_equalsGroup (g : Group) (v : Value) :
    Follows m run (equalsGroup run g v) := by
  unfold equalsGroup
  grind

@[grind ←] instance follows_equalGroups (groups : List Group) (vs : List Value) :
    Follows m run (equalGroups run groups vs) := by
  induction groups generalizing vs <;> cases vs <;> grind [equalGroups]

@[grind ←] instance follows_hashGiven (platform : Platform) (answer : Value) :
    Follows m run (hashGiven platform answer) := by
  unfold hashGiven
  split <;> grind

@[grind ←] instance follows_standardHash (v : Value) : Follows m run (standardHash run v) := by
  unfold standardHash
  grind [Follows.task run]

@[grind ←] instance follows_hashOf (v : Value) : Follows m run (hashOf run v) := by
  refine (Follows.reading (by simp)).bind fun hook => ?_
  split
  · grind
  · refine (Attribute.follows_ask? v _ _).bind fun answer => ?_
    cases answer with
    | none => exact follows_standardHash v
    | some answer => exact (Follows.reading (by simp)).bind fun platform => by grind

end Value

namespace Error

@[grind ←] instance follows_text (e : Error) : Follows m run (e.text run) := by
  unfold text
  grind [Follows.task run]

end Error

namespace Group

@[grind ←] instance follows_firstEqual (naming : Group → String) (key : Value)
    (groups : List Group) : Follows m run (firstEqual run naming key groups) := by
  induction groups <;> grind [firstEqual]

@[grind ←] instance follows_keyed (naming : Group → String) (key : Value) :
    Follows m run (keyed run naming key) := by
  unfold keyed
  grind

@[grind ←] instance follows_ofItem? (item : Value) : Follows m run (ofItem? run item) := by
  unfold ofItem?
  grind

end Group

namespace Attribute

@[grind ←] instance follows_markHolder (raw : Value) : Follows m run (markHolder run raw) := by
  unfold markHolder
  grind

@[grind ←] instance follows_isMarked (raw : Value) : Follows m run (isMarked run raw) := by
  unfold isMarked
  grind

@[grind ←] instance follows_restrict (raw : Value) : Follows m run (restrict run raw) := by
  unfold restrict
  grind

end Attribute

namespace Lookup

@[grind ←] instance follows_dynamicRespondsTo (restricted : Bool) (context : Value)
    (name : String) : Follows m run (dynamicRespondsTo run restricted context name) := by
  unfold dynamicRespondsTo
  grind

@[grind ←] instance follows_dynamicLookup (restricted : Bool) (context : Value) (name : String) :
    Follows m run (dynamicLookup run restricted context name) := by
  unfold dynamicLookup
  grind

@[grind ←] instance follows_staticFound? (restricted : Bool) (context : Value) (name : String) :
    Follows m run (staticFound? run restricted context name) := by
  unfold staticFound?
  grind

@[grind ←] instance follows_settle (context : Value) (entry : Value × Bool) :
    Follows m run (settle run context entry) := by
  unfold settle
  grind

@[grind ←] instance follows_staticLookup (restricted : Bool) (context : Value) (name : String) :
    Follows m run (staticLookup run restricted context name) := by
  unfold staticLookup
  grind

@[grind ←] instance follows_staticMember (context : Value) (name : String) :
    Follows m run (staticMember run context name) := by
  unfold staticMember
  grind

@[grind ←] instance follows_handOver (secondary : Strategy) (operation : String) (context : Value)
    (name : String) (e : Error) :
    Follows m run (handOver run secondary operation context name e) := by
  unfold handOver
  grind

/-- A strategy with a fallback follows if both strategies do. -/
@[grind ←] theorem follows_withFallback {α : Type} (secondary : Strategy) (operation : String)
    (context : Value) (name : String) {first second : Run α} (hf : Follows m run first)
    (hs : Follows m run second) :
    Follows m run (withFallback run secondary operation context name first second) :=
  hf.recover fun _ _ => (follows_handOver _ _ _ _ _).bind fun _ => hs

end Lookup

namespace Strategy

open Lookup

@[grind ←] instance follows_respondsTo (s : Strategy) (context : Value) (name : String) :
    Follows m run (s.respondsTo run context name) := by
  induction s with
  | dynamic r => exact follows_dynamicRespondsTo r context name
  | static r => exact (follows_staticFound? r context name).map
  | fallback p s hp hs => exact follows_withFallback s _ context name hp hs

@[grind ←] instance follows_lookup (s : Strategy) (context : Value) (name : String) :
    Follows m run (s.lookup run context name) := by
  induction s with
  | dynamic r => exact follows_dynamicLookup r context name
  | static r => exact follows_staticLookup r context name
  | fallback p s hp hs => exact follows_withFallback s _ context name hp hs

@[grind ←] instance follows_member (s : Strategy) (context : Value) (name : String) :
    Follows m run (s.member run context name) := by
  induction s with
  | dynamic _ => exact Attribute.follows_get context name
  | static _ => exact follows_staticMember context name
  | fallback p s hp hs => exact follows_withFallback s _ context name hp hs

end Strategy

end OrderedScope
