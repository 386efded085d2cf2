import Gologin.Server.Locks

/-!
# What goes on in the blocks

No thread touches a table while another changes it. And whatever the order in which they go on,
the threads that are in blocks all get out of them again: no mutex is left locked, no two threads
wait for each other, and no iterator dangles.
-/

namespace Gologin.Locks
set_option autoImplicit false
open Calls Messages Auth Tcp Tables Server SharedMutex

/-! ## Races -/

/-- Whether the next thing that a thread does is with what the mutex guards. -/
def touches : Option Conn × Place → Mutex → Bool
  | (_, .holding held _ w), mutex =>
    decide (held = mutex) && match w with
      | .returning => false
      | .missing => false
      | _ => true
  | _, _ => false

/-- Whether it changes that. -/
def changes : Option Conn × Place → Mutex → Bool
  | (some conn, .holding held _ w), mutex =>
    decide (held = mutex) && match conn.phase, w with
      | .started, .entered => true
      | .dropping 0, .entered => true
      | .handling (.call (.addClient _ _ _ _ _) _), .drawn _ => true
      | .handling (.call (.remClient _ _) _), .pointing => true
      | _, _ => false
  | _, _ => false

/-- One thread is about to change what another is about to touch. -/
def Race (x : State) : Prop :=
  ∃ mutex c d, c ≠ d ∧ changes (x.view c) mutex = true ∧ touches (x.view d) mutex = true

section
variable {A : App} {login pass : Str} {x x' : State} {c : Nat} {choice : Choice}

theorem touches_holds {v : Option Conn × Place} {mutex : Mutex} (touch : touches v mutex = true) : mode v mutex ≠ none := by
  obtain ⟨conn, place⟩ := v
  cases place with
  | outside | waiting => cases touch
  | holding held m w =>
    obtain ⟨same, _⟩ := (Bool.and_eq_true _ _).mp touch
    simp only [mode, Place.mode, of_decide_eq_true same, if_true]
    exact Option.some_ne_none _

/-- A thread changes only what it holds alone. -/
theorem changes_alone {s : Server.State} {v : Option Conn × Place} {mutex : Mutex} (learned : Learned login pass s v)
    (change : changes v mutex = true) : mode v mutex = some .exclusive := by
  cases learned with
  | outside conn => cases conn <;> cases change
  | waiting => cases change
  | entered blocks right =>
    obtain ⟨same, does⟩ := (Bool.and_eq_true _ _).mp change
    have held := of_decide_eq_true same
    split at does
    · rename_i phase _
      rw [phase] at blocks
      cases blocks
      exact if_pos held
    · rename_i phase _
      rw [phase] at blocks
      cases blocks
      exact if_pos held
    · rename_i within
      cases within
    · rename_i within
      cases within
    · cases does
  | calling phase guards right found =>
    rename_i w call rest
    obtain ⟨same, does⟩ := (Bool.and_eq_true _ _).mp change
    have held := of_decide_eq_true same
    rw [phase] at does
    cases call with
    | addClient | remClient =>
      cases guards
      exact if_pos held
    | getClients | statusClient | sendTo => cases w <;> cases does
  | returning =>
    obtain ⟨_, does⟩ := (Bool.and_eq_true _ _).mp change
    split at does
    · rename_i within
      cases within
    · rename_i within
      cases within
    · rename_i within
      cases within
    · rename_i within
      cases within
    · cases does

theorem no_race (h : Inv login pass x) : ¬ Race x := by
  rintro ⟨mutex, c, d, other, change, touch⟩
  exact other (h.exclusive mutex c d (changes_alone (h.learned c) change) (touches_holds touch))

/-! ## Out of the blocks -/

/-- A thread in a block goes on. -/
def ongoing (A : App) (x : State) : Event → Option State
  | .goes c choice => if (x.place c matches .outside) = true then none else goes A x c choice
  | .server _ => none

/-- How many entries there are to go through. -/
def entries (s : Server.State) : Mutex → Nat
  | .clients => (values s.provider.clients).length
  | .clientList => 0

/-- What is left to do of a block. -/
def left (s : Server.State) : Place → Nat
  | .outside => 0
  | .waiting _ _ => 0
  | .holding mutex _ .entered => entries s mutex + 5
  | .holding mutex _ (.scanning _ read _) => entries s mutex - read + 2
  | .holding _ _ .pointing => 2
  | .holding _ _ .missing => 3
  | .holding _ _ (.drawn _) => 2
  | .holding _ _ .returning => 1

/-- Whether a thread is still to get in. -/
def queued : Place → Nat
  | .waiting _ _ => 1
  | .outside => 0
  | .holding _ _ _ => 0

/-- What is left of all blocks. -/
def measure (x : State) : Nat × Nat :=
  (∑ d ∈ Finset.range x.server.conns.length, queued (x.place d),
    ∑ d ∈ Finset.range x.server.conns.length, left x.server (x.place d))

theorem entries_same {mutex : Mutex} {s s' : Server.State} (same : Same mutex s s') : entries s' mutex = entries s mutex := by
  cases mutex with
  | clients =>
    have provider : s'.provider = s.provider := same
    simp only [entries, provider]
  | clientList => rfl

theorem left_same {s s' : Server.State} {place : Place} (same : ∀ mutex, place.mode mutex ≠ none → Same mutex s s') :
    left s' place = left s place := by
  cases place with
  | outside | waiting => rfl
  | holding mutex m w =>
    have kept := entries_same (same mutex (by simp [Place.mode]))
    cases w <;> simp only [left, kept]

theorem left_inside (s : Server.State) (mutex : Mutex) (m : Mode) {w : Within} (inside : w ≠ .returning) :
    1 < left s (.holding mutex m w) := by
  cases w with
  | returning => exact absurd rfl inside
  | entered | scanning | pointing | missing | drawn =>
    simp only [left]
    omega

/-- A step in the block of a call leaves less of it. -/
theorem next_left {s : Server.State} {call : Server.Call} {w w' : Within} {m : Mode} (found : Found s call w)
    (goes : next s c choice call w = some (.inl w')) :
    left s (.holding (guard call).1 m w') < left s (.holding (guard call).1 m w) := by
  cases call with
  | getClients status =>
    cases w with
    | entered =>
      cases goes
      simp only [left]
      omega
    | scanning order read clients =>
      simp only [next] at goes
      split at goes
      · rename_i client here
        cases goes
        have inside := (List.getElem?_eq_some_iff.1 here).1
        rw [(order.perm _).length_eq] at inside
        simp only [left, guard, entries]
        omega
      · cases goes
    | pointing | missing | drawn | returning => cases found
  | statusClient id session =>
    cases w with
    | entered =>
      simp only [next] at goes
      split at goes
      · cases goes
        simp only [left]
        omega
      · cases goes
    | pointing =>
      obtain ⟨_, _, ⟨⟩⟩ := Option.map_eq_some_iff.1 goes
    | scanning | missing | drawn | returning => cases found
  | addClient id cookies login pass session =>
    cases w with
    | entered =>
      cases goes
      split
      · simp only [left]
        omega
      · simp only [left]
        omega
    | pointing =>
      obtain ⟨_, _, ⟨⟩⟩ := Option.map_eq_some_iff.1 goes
    | missing =>
      cases goes
      simp only [left]
      omega
    | drawn => cases goes
    | scanning | returning => cases found
  | remClient id session =>
    cases w with
    | entered =>
      simp only [next] at goes
      split at goes
      · cases goes
        simp only [left]
        omega
      · cases goes
    | pointing =>
      obtain ⟨_, _, ⟨⟩⟩ := Option.map_eq_some_iff.1 goes
    | scanning | missing | drawn | returning => cases found
  | sendTo cookies cmd buff =>
    cases w with
    | entered =>
      simp only [next] at goes
      split at goes
      · cases goes
        simp only [left]
        omega
      · cases goes
    | pointing =>
      obtain ⟨_, _, ⟨⟩⟩ := Option.map_eq_some_iff.1 goes
    | scanning | missing | drawn | returning => cases found

/-- Of the others nothing less is left, when one goes on. -/
theorem Keeps.left_others (h : Inv login pass x) (k : Keeps login pass x c x') (d : Nat) (other : d ≠ c) :
    left x'.server (x'.place d) = left x.server (x.place d) := by
  have place : x'.place d = x.place d := congrArg Prod.snd (k.others d other)
  rw [place]
  refine left_same fun mutex held => ?_
  exact (k.guarded mutex).resolve_right fun alone => other (h.exclusive mutex c d alone held).symm

/-- **A thread that goes on in a block leaves less to do.** -/
theorem measure_lower (h : Inv login pass x) (inside : x.place c ≠ .outside) (goes : Goes A x c choice x') :
    Prod.Lex (· < ·) (· < ·) (measure x') (measure x) := by
  have k := goes_keeps h goes
  obtain ⟨conn, there⟩ := h.here inside
  have here : c < x.server.conns.length := (List.getElem?_eq_some_iff.1 there).1
  have others (d : Nat) (other : d ≠ c) : queued (x'.place d) = queued (x.place d) :=
    congrArg queued (congrArg Prod.snd (k.others d other))
  have less (same : queued (x'.place c) = queued (x.place c))
      (less : left x'.server (x'.place c) < left x.server (x.place c)) :
      Prod.Lex (· < ·) (· < ·) (measure x') (measure x) := by
    have queue : (measure x').1 = (measure x).1 := by
      simp only [measure, k.length]
      refine Finset.sum_congr rfl fun d _ => ?_
      by_cases mine : d = c
      · rw [mine]
        exact same
      · exact others d mine
    have rest : (measure x').2 < (measure x).2 := by
      simp only [measure, k.length]
      exact sum_lt_of_step here less (k.left_others h)
    rw [← Prod.mk.eta (p := measure x'), ← Prod.mk.eta (p := measure x), queue]
    exact .right _ rest
  cases goes with
  | rejected _ out | waits _ out => exact absurd out inside
  | locks _ waits free =>
    refine .left _ _ ?_
    rw [k.length]
    refine sum_lt_of_step here ?_ others
    rw [waits, place_move]
    exact Nat.zero_lt_one
  | within here' holds phase goes =>
    rename_i conn call rest mutex mode w w'
    obtain ⟨guards, _, found⟩ := h.calls here' holds phase (next_inside goes)
    refine less ?_ ?_
    · rw [holds, place_move]
      rfl
    · have lower := @next_left c choice x.server call w w' mode found goes
      rw [guards] at lower
      rw [holds, place_move]
      exact lower
  | returns here' holds phase goes =>
    rename_i conn call rest mutex mode w result
    refine less ?_ ?_
    · rw [holds, place_answer]
      rfl
    · rw [holds, place_answer]
      exact left_inside x.server mutex mode (next_inside goes)
  | listed here' holds uses taken =>
    rename_i conn mutex mode e s
    have there : (⟨s, Function.update x.place c (.holding mutex mode .returning)⟩ : State).place c =
        .holding mutex mode .returning := Function.update_self ..
    refine less ?_ ?_
    · rw [holds, there]
      rfl
    · rw [holds, there]
      exact left_inside x.server mutex mode (by rintro ⟨⟩)
  | leaves here' holds =>
    refine less ?_ ?_
    · rw [holds, place_move]
      rfl
    · rw [holds, place_move]
      exact Nat.zero_lt_one

/-- A thread that holds a mutex can go on. -/
theorem holder_goes (h : Inv login pass x) {held : Mutex} {m : Mode} {w : Within} (holds : x.place c = .holding held m w)
    (choice : Choice) : ∃ x', goes A x c choice = some x' := by
  obtain ⟨conn, here⟩ := h.here (show x.place c ≠ .outside by rw [holds]; rintro ⟨⟩)
  have calls {call : Server.Call} {rest : call.Answer → Handling Packet} (phase : conn.phase = .handling (.call call rest))
      (inside : w ≠ .returning) : ∃ x', goes A x c choice = some x' := by
    obtain ⟨_, _, found⟩ := h.calls here holds phase inside
    obtain ⟨r, next_⟩ := found_goes found c choice
    rw [goes_holding here holds phase inside, next_]
    exact ⟨_, rfl⟩
  have learned := h.learned c
  rw [State.view, here, holds] at learned
  cases learned with
  | entered blocks right =>
    obtain ⟨handle, socket, stands⟩ := conn
    cases stands with
    | started =>
      have taken := (Step.emplace here : Step A x.server (.emplace c) _).enabled
      unfold goes
      rw [here]
      simp only [holds, taken]
      exact ⟨_, rfl⟩
    | dropping n =>
      cases n with
      | zero =>
        have taken := (Step.erase here : Step A x.server (.erase c) _).enabled
        unfold goes
        rw [here]
        simp only [holds, taken]
        exact ⟨_, rfl⟩
      | succ n => cases blocks
    | handling program =>
      cases program with
      | done packet => cases blocks
      | call call rest => exact calls rfl (by rintro ⟨⟩)
    | receiving | closing | leaving | ended => cases blocks
  | calling phase guards right found =>
    refine calls phase ?_
    rintro rfl
    rename_i call rest
    cases call <;> cases found
  | returning => exact ⟨_, goes_leaves here holds⟩

/-- Where no thread goes on, all are out. -/
theorem stuck_outside (h : Inv login pass x) (stuck : Runs.Stuck (ongoing A) (fun _ => True) x) (c : Nat) :
    x.place c = .outside := by
  have still (d : Nat) (inside : x.place d ≠ .outside) : goes A x d someChoice = none := by
    have ended := stuck (.goes d someChoice) trivial
    simp only [ongoing] at ended
    split at ended
    · rename_i out
      cases place : x.place d with
      | outside => exact absurd place inside
      | waiting | holding => cases out
    · exact ended
  have idle (d : Nat) (mutex : Mutex) : (x.place d).mode mutex = none := by
    cases place : x.place d with
    | outside | waiting => rfl
    | holding held m w =>
      obtain ⟨x', taken⟩ := @holder_goes A login pass x d h held m w place someChoice
      rw [still d (by rw [place]; rintro ⟨⟩)] at taken
      cases taken
  cases place : x.place c with
  | outside => rfl
  | holding held m w =>
    obtain ⟨x', taken⟩ := @holder_goes A login pass x c h held m w place someChoice
    rw [still c (by rw [place]; rintro ⟨⟩)] at taken
    cases taken
  | waiting mutex m =>
    obtain ⟨conn, here⟩ := h.here (show x.place c ≠ .outside by rw [place]; rintro ⟨⟩)
    have taken := goes_locks (A := A) here place someChoice
    rw [if_pos (free_of_none (fun d => idle d mutex) m), still c (by rw [place]; rintro ⟨⟩)] at taken
    cases taken

end

theorem ongoing_step {A : App} {x x' : State} {e : Event} (taken : ongoing A x e = some x') :
    ∃ c choice, e = .goes c choice ∧ x.place c ≠ .outside ∧ goes A x c choice = some x' := by
  cases e with
  | server e => cases taken
  | goes c choice =>
    simp only [ongoing] at taken
    split at taken
    · cases taken
    · rename_i inside
      refine ⟨c, choice, rfl, fun out => inside ?_, taken⟩
      rw [out]

theorem ongoing_descends (A : App) (login pass : Str) :
    Runs.Descends (ongoing A) (fun _ => True) (Inv login pass) (Prod.Lex (· < ·) (· < ·)) measure where
  keep x e x' h taken := by
    obtain ⟨c, choice, rfl, _, taken⟩ := ongoing_step taken
    exact (goes_keeps h (goes_cases taken)).inv h
  lower x e x' h _ taken := by
    obtain ⟨c, choice, rfl, inside, taken⟩ := ongoing_step taken
    exact measure_lower h inside (goes_cases taken)

/-- **The mutexes do their work.** In every state that is reached no thread is about to change what
another is about to touch; and the threads that are in blocks, left to go on, come to an end in
whatever order they go on, and all get out of the blocks. -/
theorem blocks_end {A : App} {login pass : Str} {es : List Event} {x : State}
    (run : Runs.exec (step A) (.init login pass) es = some x) :
    ¬ Race x ∧ Runs.Settles (ongoing A) (fun _ => True) (fun x' => ∀ c, x'.place c = .outside) x := by
  have h := inv_run run
  refine ⟨no_race h, ?_⟩
  have descends := ongoing_descends A login pass
  refine descends.settles (WellFounded.prod_lex wellFounded_lt wellFounded_lt) h fun x' alone stuck => ?_
  exact stuck_outside (alone.invariant (fun x e x' h _ taken => descends.keep x e x' h taken) h) stuck

/-- One client logs in and sends a message; its handler is in the loop of `get_clients` when another
client logs in, whose handler waits. -/
def crowded : List Event :=
  [.server (.accept 3 true), .server (.accept 4 true)] ++
    List.replicate 4 (.goes 0 someChoice) ++ List.replicate 4 (.goes 1 someChoice) ++
    [.server (.recv 0 blank (whole (loginPacket "7")))] ++ List.replicate 6 (.goes 0 someChoice) ++
    [.server (.reply 0), .server (.recv 0 blank (whole (messagePacket "7")))] ++ List.replicate 8 (.goes 0 someChoice) ++
    [.server (.recv 1 blank (whole (loginPacket "8"))), .goes 1 someChoice]

/-- Both get out. -/
theorem blocks_end_crowded :
    ∃ x, Runs.exec (step App.compact) (.init (str "login") (str "pass")) crowded = some x ∧
      (x.place 0 matches .holding .clients .shared (.scanning _ _ _)) = true ∧
      (x.place 1 matches .waiting .clients .exclusive) = true ∧ ¬ Race x ∧
      Runs.Settles (ongoing App.compact) (fun _ => True) (fun x' => ∀ c, x'.place c = .outside) x := by
  obtain ⟨x, run, seen⟩ := Option.map_eq_some_iff.1
    (show (Runs.exec (step App.compact) (.init (str "login") (str "pass")) crowded).map (fun x =>
        ((x.place 0 matches .holding .clients .shared (.scanning _ _ _)),
          (x.place 1 matches .waiting .clients .exclusive))) = some (true, true) by decide +kernel)
  obtain ⟨first, second⟩ := Prod.mk.inj seen
  exact ⟨x, run, first, second, blocks_end run⟩

end Gologin.Locks
