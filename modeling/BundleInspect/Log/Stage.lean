import BundleInspect.Log.Event

/-!
# Stages

A stage of a run logs events and then yields a value or an error. Stages follow one another until
one of them fails; what was logged stays logged.
-/

namespace BundleInspect.Log

structure Stage (α : Type) where
  events : List Event
  result : Except Error α

namespace Stage

def log (e : Event) : Stage Unit :=
  ⟨[e], .ok ()⟩

def fail {α : Type} (e : Error) : Stage α :=
  ⟨[], .error e⟩

/-- A stage that logs nothing. -/
def ofExcept {α : Type} (result : Except Error α) : Stage α :=
  ⟨[], result⟩

def andThen {α β : Type} (first : Stage α) (next : α → Stage β) : Stage β :=
  match first.result with
  | .ok a => ⟨first.events ++ (next a).events, (next a).result⟩
  | .error e => ⟨first.events, .error e⟩

instance : Monad Stage where
  pure a := ⟨[], .ok a⟩
  bind := andThen

@[simp] theorem result_pure {α : Type} (a : α) : (pure a : Stage α).result = .ok a :=
  rfl

@[simp] theorem result_log (e : Event) : (log e).result = .ok () :=
  rfl

@[simp] theorem result_fail {α : Type} (e : Error) : (fail e : Stage α).result = .error e :=
  rfl

@[simp] theorem result_ofExcept {α : Type} (r : Except Error α) : (ofExcept r).result = r :=
  rfl

@[simp] theorem result_bind {α β : Type} (first : Stage α) (next : α → Stage β) :
    (first >>= next).result = first.result.bind fun a => (next a).result := by
  show (first.andThen next).result = _
  unfold andThen
  cases h : first.result <;> rfl

end Stage
end BundleInspect.Log
