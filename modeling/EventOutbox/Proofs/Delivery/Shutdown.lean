import EventOutbox.Proofs.Simulation.World
import EventOutbox.Shop
import Mathlib.Data.Nat.Find

/-!
# The end of the polling loop

The loop runs one cycle for each tick until someone asks it to stop, survives cycles that fail, and
then ends successfully and idle.

## Main statement

- `Dispatcher.polling_loop`
-/

namespace EventOutbox.Dispatcher

variable {W κ : Type} [EventCatalog κ] {d : Dispatcher W κ} {timer : Timer W} {phase : W → Phase}
  {w : W}

/-- The loop that begins at `w` runs `n` cycles and returns in the world `final`. -/
structure Stops (d : Dispatcher W κ) (timer : Timer W) (phase : W → Phase) (w : W) (n : Nat)
    (final : W) : Prop where
  /-- Nobody has asked to stop when a cycle starts. -/
  taken : ∀ j < n, d.Taken timer (d.lap timer w j)
  untaken : ¬ d.Taken timer (d.lap timer w n)
  /-- The loop goes on after each of these cycles, whatever the cycle answers. -/
  running : ∀ k < n, (d.run timer k).run w = (.ok none, (d.lap timer w k).world)
  /-- It returns successfully after them, without another cycle. -/
  returns : ∀ cycles, n < cycles → (d.run timer cycles).run w = (.ok (some (.ok ())), final)
  halted : final = ((d.setPhase .idle).run (d.haltedAt timer (d.lap timer w n))).2
  idle : phase final = .idle
  /-- A cycle in the midst of which someone asks to stop is the last one.  It makes no calls for the
  rows behind the visited ones, which stay as they were. -/
  interrupted : ∀ j < n, ∀ visited rest,
    d.StopsAt ((d.lap timer w j).ticked timer) visited rest → n = j + 1 ∧
      (d.lap timer w n).world = d.closed (d.amid ((d.lap timer w j).ticked timer) visited) ∧
      ∀ holds, d.Frames holds → ∀ m ∈ rest, m.id ∉ visited.map Message.id →
        holds m ((d.lap timer w j).ticked timer) → holds m final
  /-- When the timer keeps its ticks, cycles start one period after the other. -/
  times : ∀ grain, d.Ticks timer grain → d.Paced timer w n grain

/-- A loop of a valid configuration that is once asked to stop. -/
theorem Polls.stops (h : d.Polls timer phase w) (valid : d.config.problem? = none)
    (hstop : ∃ n, ¬ d.Taken timer (d.lap timer w n)) :
    ∃ n final, Stops d timer phase w n final := by
  classical
  -- the first tick that is not taken
  obtain ⟨n, huntaken, htaken⟩ : ∃ n, ¬ d.Taken timer (d.lap timer w n) ∧
      ∀ j < n, d.Taken timer (d.lap timer w j) :=
    ⟨Nat.find hstop, Nat.find_spec hstop, fun j hj => not_not.mp (Nat.find_min hstop hj)⟩
  refine ⟨n, ((d.setPhase .idle).run (d.haltedAt timer (d.lap timer w n))).2, ?_⟩
  constructor
  case taken => exact htaken
  case untaken => exact huntaken
  case running =>
    intro k hk
    -- the loop that is still running stands before its next wait
    rw [run_of_valid valid, ← Nat.add_zero k,
      h.poll_laps (fun j hj => htaken j (Nat.lt_trans hj hk)), Nat.add_zero, poll,
      Action.run_bind_of_ok (Action.run_ask _ _), (htaken k hk).1, if_neg Bool.false_ne_true,
      Action.run_pure]
  case returns =>
    intro cycles hcycles
    -- one tick more than those taken is enough to find the request
    obtain ⟨more, rfl⟩ := Nat.exists_eq_add_of_lt hcycles
    rw [run_of_valid valid, Nat.add_assoc, h.poll_laps htaken, h.poll_of_untaken huntaken]
  case halted => rfl
  case idle => exact (h.shows _ _).2
  case interrupted =>
    intro j hj visited rest hat
    obtain ⟨answer, hcycle⟩ := h.answers j fun i hi => htaken i (Nat.lt_of_le_of_lt hi hj)
    have hworld : (d.lap timer w (j + 1)).world =
        d.closed (d.amid ((d.lap timer w j).ticked timer) visited) := by
      rw [lap_succ]
      exact h.cycle_of_stop valid hcycle hat
    have hcancelled : d.cancelled (d.lap timer w (j + 1)).world = true := by
      rw [hworld]
      exact h.stays _ _ (h.stays _ _ hat.stop)
    -- the next tick is not taken
    obtain rfl : n = j + 1 := by
      refine Nat.le_antisymm (Nat.le_of_not_lt fun hlt => ?_) hj
      rw [(htaken (j + 1) hlt).1] at hcancelled
      cases hcancelled
    refine ⟨rfl, hworld, fun holds hframes m _ hother hm => ?_⟩
    -- the last phases and the rows that were delivered leave the row as it was
    rw [haltedAt, if_pos hcancelled, hworld]
    exact hframes.setPhase _ m _ (hframes.setPhase _ m _ (hframes.setPhase _ m _
      (hframes.delivered hother (hframes.opened hm))))
  case times => exact fun grain hticks => paced hticks htaken

/-- The polling loop ends at once with a failure when its configuration is refused.  Otherwise it
runs one cycle for each tick until someone asks it to stop, and ends successfully. -/
theorem polling_loop (d : Dispatcher W κ) (timer : Timer W) (phase : W → Phase) (w : W) :
    (∀ p, d.config.problem? = some p → p.failure.code = .validationFailed ∧
      ∀ cycles, (d.run timer cycles).run w = (.ok (some (.error p.failure)), w)) ∧
    (d.config.problem? = none → d.Polls timer phase w →
      (∃ n, ¬ d.Taken timer (d.lap timer w n)) → ∃ n final, Stops d timer phase w n final) :=
  ⟨fun _ hproblem => ⟨rfl, fun cycles => run_of_problem hproblem timer cycles w⟩,
    fun valid h hstop => h.stops valid hstop⟩

/-! ## Runs of the loop -/

open Simulation Simulation.World

/-- A printer that gets the events of a shop, every one and a half milliseconds. -/
private def press : Dispatcher (World Shop.Kind) Shop.Kind :=
  dispatcher ⟨[⟨Shop.Kind.itemCreated, scripted "press" "printer" Shop.Kind.itemCreated⟩]⟩
    (.ofList [.itemCreated]) { pollInterval := ⟨0, ⟨1500000, by decide⟩⟩ }

private def leaflet : List Message :=
  (Message.ofEvent (Shop.created 1) "Item" "7" (Uuid.ofNat 9) Shop.opening).toOption.toList

/-- The first fetch fails, and during the second one someone asks to stop. -/
private def evening : World Shop.Kind :=
  let store := ((Store.commit { transactionId := Uuid.ofNat 9, messages := leaflet }).run {}).2
  start false (some 2)
    { clock := Shop.opening, store := store.failNextFetch (.plain .databaseError "down") }

private theorem polls_evening : press.Polls World.timer shown evening := by
  refine polls fun n htaken => ?_
  have hanswers : ∀ n < 2, ((press.dispatchOnce.run
      ((press.lap World.timer evening n).ticked World.timer)).1).toOption.isSome = true := by
    decide +kernel
  rcases Nat.lt_or_ge n 2 with hn | hn
  · have hsome := hanswers n hn
    cases hrun :
      (press.dispatchOnce.run ((press.lap World.timer evening n).ticked World.timer)).1 with
    | error e =>
      rw [hrun] at hsome
      cases hsome
    | ok answer => exact ⟨answer, hrun⟩
  · -- the third tick is not taken
    exact absurd (htaken 2 hn) (by decide +kernel)

/-- The loop survives a failed fetch, starts its second cycle at the first whole millisecond after
the interval, and ends there before the row is delivered. -/
theorem stops_in_second_cycle : ∃ final,
    (press.run World.timer 3).run evening = (.ok (some (.ok ())), final) ∧ shown final = .idle ∧
    (∀ m ∈ leaflet, m ∈ final.store.messages) ∧
    press.startOf World.timer evening 1 = 2000000 := by
  obtain ⟨n, final, hstops⟩ := (polling_loop press World.timer shown evening).2
    (by decide +kernel) polls_evening ⟨2, by decide +kernel⟩
  have htaken : ∀ j < 2, press.Taken World.timer (press.lap World.timer evening j) := by
    decide +kernel
  have huntaken : ¬ press.Taken World.timer (press.lap World.timer evening 2) := by decide +kernel
  obtain rfl : n = 2 := by
    refine Nat.le_antisymm (Nat.le_of_not_lt fun hlt => huntaken (hstops.taken 2 hlt)) ?_
    exact Nat.le_of_not_lt fun hlt => hstops.untaken (htaken n hlt)
  have hat : press.StopsAt ((press.lap World.timer evening 1).ticked World.timer) [] leaflet := by
    constructor
    case batch => decide +kernel
    case nonempty => decide +kernel
    case before => exact fun earlier hprefix hne => absurd (List.prefix_nil.mp hprefix) hne
    case stop => decide +kernel
  have hframes : press.Frames (κ := Shop.Kind) Holds := by
    refine frames _ _ fun s hs body m => ?_
    obtain rfl := List.mem_singleton.mp hs
    exact scripted_within _ _ _ body
  obtain ⟨-, -, hrest⟩ := hstops.interrupted 1 (by decide) [] leaflet hat
  refine ⟨final, hstops.returns 3 (by decide), hstops.idle, fun m hm => ?_, ?_⟩
  · have hsound : ((press.lap World.timer evening 1).ticked World.timer).store.Sound :=
      ⟨by decide +kernel, by decide +kernel, by decide +kernel⟩
    have hstored : ∀ m ∈ leaflet,
        m ∈ ((press.lap World.timer evening 1).ticked World.timer).store.messages := by
      decide +kernel
    exact (hrest Holds hframes m hm List.not_mem_nil ⟨hsound, hstored m hm⟩).mem
  · have hpaced := hstops.times World.millisecond (ticks (by decide +kernel))
    rw [hpaced.steady (by unfold Instantaneous startOf; decide +kernel) 1 (by decide)]
    decide +kernel

end EventOutbox.Dispatcher
