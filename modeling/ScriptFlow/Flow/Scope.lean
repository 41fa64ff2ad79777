import ScriptFlow.Data.Basic

/-!
# Cancellation scopes

Scopes form a forest: cancelling a scope cancels everything below it. A scope that is cancelled stays cancelled, and a scope made below a
cancelled one is cancelled from the start. Callbacks are registered on a scope and become due once, when it is cancelled; on a cancelled scope they are due at
once.

What is due is a list of errands, worked off from the front. `Forest.next` says what an errand leads to; what a callback does is up to the owner of
the forest, who may add errands in front of the others. An owner whose callback fails drops the errands that are left.
-/

namespace ScriptFlow

abbrev ScopeId := Nat

structure Scope (κ : Type) where
  cancelled : Bool := false
  callbacks : List κ := []
  children : List ScopeId := []
  deriving Inhabited

structure Forest (κ : Type) where
  scopes : Array (Scope κ) := #[]
  deriving Inhabited

/-- What is still to be done about a cancellation. -/
inductive Errand (κ : Type) where
  | cancel (s : ScopeId)
  | fire (c : κ)
  /-- the scopes below a scope are cancelled -/
  | descend (s : ScopeId)
  deriving DecidableEq, Repr

/-- The error of an operation under a cancelled scope. -/
def contextCancelled : Fault := .error .canceled "context cancelled"

namespace Forest

variable {κ : Type}

def scope (f : Forest κ) (s : ScopeId) : Scope κ := (f.scopes[s]?).getD {}

def update (f : Forest κ) (s : ScopeId) (g : Scope κ → Scope κ) : Forest κ := ⟨f.scopes.modify s g⟩

def isCancelled (f : Forest κ) (s : ScopeId) : Bool := (f.scope s).cancelled

/-- A scope of its own. -/
def new (f : Forest κ) : Forest κ × ScopeId := (⟨f.scopes.push {}⟩, f.scopes.size)

/-- A scope below another. -/
def child (f : Forest κ) (parent : ScopeId) : Forest κ × ScopeId :=
  let s := f.scopes.size
  let f := f.update parent fun p => { p with children := p.children ++ [s] }
  (⟨f.scopes.push { cancelled := f.isCancelled parent }⟩, s)

/-- Registers a callback. -/
def on (f : Forest κ) (s : ScopeId) (c : κ) : Forest κ × List (Errand κ) :=
  if f.isCancelled s then (f, [.fire c]) else (f.update s fun x => { x with callbacks := x.callbacks ++ [c] }, [])

/-- Removes one registration of a callback, the oldest. -/
def remove [BEq κ] (f : Forest κ) (s : ScopeId) (c : κ) : Forest κ :=
  f.update s fun x => { x with callbacks := x.callbacks.erase c }

/-- Nobody but its parent knows the scope any more, so cancellation passes it by. -/
def release (f : Forest κ) (s : ScopeId) : Forest κ :=
  ⟨f.scopes.map fun x => { x with children := x.children.filter (· != s) }⟩

/-- One errand. A callback that is due is handed back. -/
def next (f : Forest κ) : Errand κ → Forest κ × List (Errand κ) × Option κ
  | .cancel s =>
    if f.isCancelled s then (f, [], none)
    else
      (f.update s fun x => { x with cancelled := true, callbacks := [] },
        (f.scope s).callbacks.map .fire ++ [.descend s], none)
  | .fire c => (f, [], some c)
  | .descend s => (f, (f.scope s).children.map .cancel, none)

/-- Fails under a cancelled scope. -/
def check (f : Forest κ) (s : ScopeId) : Except Fault Unit :=
  if f.isCancelled s then .error contextCancelled else .ok ()

end Forest

end ScriptFlow
