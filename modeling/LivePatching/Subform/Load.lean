import LivePatching.Selection.View
import LivePatching.Form.Shared

/-!
# Loads

A load asks a provider one question and handles the answer. It is issued at once and runs later;
until it is finished it may be aborted, and an aborted load is dropped when its turn comes.
-/

namespace LivePatching

/-- The values of the form that the list of kernels depends on. -/
structure Inputs where
  template : Template
  clientId : Option EntityId
  productId : Option EntityId
  /-- Where the values were read, and where the kernel is written. -/
  context : Context
deriving DecidableEq, Repr, Inhabited

namespace Inputs

/-- The inputs the form holds now. -/
def read (f : Form) (t : Template) (c : Context) : Inputs :=
  ⟨t, (f.model c.reads).id .clientId, (f.model c.reads).id .productId, c⟩

/-- The active scope of the inputs. -/
def scope (i : Inputs) : Option Scope := activeScope i.template i.clientId i.productId

/-- Whether nothing has changed: of the contexts only the writers count. -/
def same (i j : Inputs) : Bool :=
  i.template == j.template && i.clientId == j.clientId && i.productId == j.productId &&
    i.context.sameWriter j.context

end Inputs

/-- What a load asks a provider for. -/
inductive Question where
  | clients
  | products
  /-- Asked by the derivation with the key. -/
  | kernels (key : RequestKey) (s : Scope)
deriving DecidableEq, Repr, Inhabited

/-- How far a load is. -/
inductive Stage where
  /-- Issued, but it has not run yet. -/
  | queued
  /-- Its provider was asked. -/
  | running
  | finished
  /-- It will not go on; `asked` says whether its provider was asked. -/
  | aborted (asked : Bool)
  | dropped (asked : Bool)
deriving DecidableEq, Repr, Inhabited

namespace Stage

/-- Whether the load can still answer. -/
def isLive : Stage → Bool
  | queued => true
  | running => true
  | _ => false

/-- Whether waiting for the load is over. -/
def isOver : Stage → Bool
  | finished => true
  | dropped _ => true
  | _ => false

/-- The stage of a load after it is aborted. -/
def abort : Stage → Stage
  | queued => aborted false
  | running => aborted true
  | s => s

end Stage

/-- A question to a provider on its way. -/
structure Load where
  question : Question
  stage : Stage
deriving DecidableEq, Repr, Inhabited

/-- The load, aborted. -/
def Load.abort (l : Load) : Load := { l with stage := l.stage.abort }

/-- What has been counted. -/
structure Tally where
  /-- Loads of kernels issued. -/
  kernelLoads : Nat
  /-- Answers that came too late. -/
  staleResults : Nat
  clientFailures : Nat
  productFailures : Nat
  kernelFailures : Nat
  /-- Loads of kernels whose duration was taken. -/
  timedLoads : Nat
deriving DecidableEq, Repr, Inhabited

/-- Nothing has been counted yet. -/
def Tally.zero : Tally := ⟨0, 0, 0, 0, 0, 0⟩

/-! ## The lists of the catalog -/

/-- A list of the catalog. The two are loaded in one way; what differs is what is asked for, where
the list is kept and where a failure is counted. -/
inductive Listing where
  | clients
  | products
deriving DecidableEq, Repr, Inhabited

namespace Listing

/-- What the list is made of. -/
abbrev Entry : Listing → Type
  | clients => Client
  | products => Product

/-- What is asked for. -/
def question : Listing → Question
  | clients => .clients
  | products => .products

/-- The lists of the catalog are not asked for as kernels are. -/
theorem question_ne_kernels (list : Listing) (key : RequestKey) (x : Scope) :
    list.question ≠ .kernels key x := by
  cases list <;> exact nofun

/-- The list as it is kept. -/
def entries : (list : Listing) → Snapshot → List list.Entry
  | clients, s => s.clients
  | products, s => s.products

/-- All that is kept of the catalog are the two lists. -/
theorem entries_congr {s s' : Snapshot} (hclients : s'.clients = s.clients)
    (hproducts : s'.products = s.products) (list : Listing) : list.entries s' = list.entries s := by
  cases list with
  | clients => exact hclients
  | products => exact hproducts

theorem entries_empty (list : Listing) : list.entries .empty = [] := by
  cases list <;> rfl

/-- Keeps the list, in place of the one kept so far. -/
def install : (list : Listing) → List list.Entry → Snapshot → Snapshot
  | clients, entries, s => { s with clients := entries }
  | products, entries, s => { s with products := entries }

/-- Counts a failure of the provider of the list. -/
def countFailure : Listing → Tally → Tally
  | clients, t => { t with clientFailures := t.clientFailures + 1 }
  | products, t => { t with productFailures := t.productFailures + 1 }

@[simp] theorem countFailure_staleResults (list : Listing) (t : Tally) :
    (list.countFailure t).staleResults = t.staleResults := by
  cases list <;> rfl

section Install

variable {list other : Listing} (entries : List list.Entry) (s : Snapshot)

@[simp] theorem entries_install : list.entries (list.install entries s) = entries := by
  cases list <;> rfl

/-- One list is taken over without the other. -/
theorem entries_install_of_ne (h : other ≠ list) :
    other.entries (list.install entries s) = other.entries s := by
  cases list <;> cases other <;> first | rfl | exact absurd rfl h

@[simp] theorem install_entries : list.install (list.entries s) s = s := by
  cases list <;> rfl

@[simp] theorem kernels_install : (list.install entries s).kernels = s.kernels := by
  cases list <;> rfl

@[simp] theorem status_install : (list.install entries s).status = s.status := by
  cases list <;> rfl

end Install

end Listing

end LivePatching
