/-!
# Actions

The program acts on a world `W` which holds whatever the program can change: stores, logs, the
clock.  An action takes the world and gives an answer and a new world.  Instead of an answer it may
*abort*, which ends the run there; what was changed before stays changed.  A part of the world is
reached through a `Cell`.
-/

namespace EventOutbox

/-! ## §1 Actions -/

/-- Why a run ends early: a counter of fixed width is full. -/
inductive Abort where
  /-- The version of an entity. -/
  | versionFull
  /-- The count of failed attempts of a row. -/
  | retriesFull
deriving DecidableEq, Repr

/-- A step of the program that acts on a world. -/
def Action (W α : Type) : Type :=
  W → Except Abort α × W

namespace Action

variable {W α β : Type}

/-- Run an action on a world. -/
def run (a : Action W α) (w : W) : Except Abort α × W :=
  a w

/-- The action that only answers. -/
def ret (x : α) : Action W α :=
  fun w => (.ok x, w)

/-- One action after another. -/
def andThen (a : Action W α) (f : α → Action W β) : Action W β :=
  fun w =>
    match a w with
    | (.ok x, w') => f x w'
    | (.error e, w') => (.error e, w')

instance : Monad (Action W) where
  pure := ret
  bind := andThen

/-- The action that ends the run. -/
def abort (e : Abort) : Action W α :=
  fun w => (.error e, w)

/-- Ask something of the world. -/
def ask (f : W → α) : Action W α :=
  fun w => (.ok (f w), w)

/-- Change the world. -/
def update (f : W → W) : Action W Unit :=
  fun w => (.ok (), f w)

/-- Answer and change the world by a function. -/
def step (f : W → α × W) : Action W α :=
  fun w => (.ok (f w).1, (f w).2)

end Action

/-! ## §2 Cells -/

/-- A part of a world that can be read and replaced. -/
structure Cell (W σ : Type) where
  get : W → σ
  set : σ → W → W
  get_set : ∀ x w, get (set x w) = x
  set_get : ∀ w, set (get w) w = w
  set_set : ∀ x y w, set x (set y w) = set x w

namespace Cell

variable {W σ α : Type}

/-- The world as a part of itself. -/
def whole : Cell W W where
  get w := w
  set w _ := w
  get_set _ _ := rfl
  set_get _ := rfl
  set_set _ _ _ := rfl

/-- Run an action on a part of the world. -/
def focus (c : Cell W σ) (a : Action σ α) : Action W α :=
  fun w => ((a (c.get w)).1, c.set (a (c.get w)).2 w)

/-- Change a part of the world. -/
def modify (c : Cell W σ) (f : σ → σ) : Action W Unit :=
  Action.update fun w => c.set (f (c.get w)) w

end Cell

end EventOutbox
