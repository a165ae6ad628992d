import LivePatching.Selection.View

/-!
# Rules of a sub-form at rest

What holds of the form and the loaded lists once no load is under way.

* `scopeConsistent`: without a scope there are no kernels and none is chosen.
* `defaultSelected`: of a list that is not empty the default kernel is chosen.
* `kernelsMatchScope`: the kernels are those of the active scope.
* `onlyKernelWritten`: no key but that of the kernel is written.
-/

namespace LivePatching

/-- Without a scope no kernels are listed and none is chosen. -/
def scopeConsistent (t : Template) (chosen : Chosen) (s : Snapshot) : Bool :=
  (chosen.scope t).isSome || s.kernels.isEmpty && chosen.kernelId.isNone

/-- A list that is not empty has its default kernel chosen. -/
def defaultSelected (kernels : List Kernel) (kernelId : Option EntityId) : Bool :=
  kernels.isEmpty || kernelId == defaultKernel kernels

/-- A list that is ready is the active scope's; otherwise there is none. -/
def kernelsMatchScope (t : Template) (chosen : Chosen) (s : Snapshot) : Bool :=
  match s.status with
  | .ready loaded => chosen.scope t == some loaded
  | _ => s.kernels.isEmpty

/-- No key but the kernel's was written. -/
def onlyKernelWritten (keys : List String) : Bool := keys.all (· == Field.kernelId.key)

end LivePatching
