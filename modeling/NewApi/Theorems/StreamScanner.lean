import NewApi.Relay.StreamScanner

/-!
# A stream ends when its handler stops, where the ping goroutine leaves the message

The data handler puts one message into `stopChan` when it exits. The main select is one of three receivers; the scanner, when it takes the
message, puts one in itself, but the ping goroutine exits without a word. This is the only way a stream hangs (`stream_hangs_iff`).
Whatever happens, the callback is given the data in order (`stream_hands_over_in_order`), and all of it where it never stops the stream
(`stream_hands_over_all`).
-/

namespace NewApi

open Run

namespace StreamScannerAux

open StreamConf

variable {s s' : StreamConf} {e : StreamEvent} {lines : List String} {room : Nat}

/-! ## The lines at hand -/

/-- Lines that lead to the end do so whatever follows them; where upstream had ended, what follows must. -/
theorem linesEnd_append {ended ended' : Bool} (more : List String) (h : linesEnd ended lines room = true)
    (hend : ended = true → ∀ room, linesEnd ended' more room = true) : linesEnd ended' (lines ++ more) room = true := by
  induction lines generalizing room with
  | nil => exact hend h room
  | cons first rest ih =>
    rw [List.cons_append]
    unfold linesEnd at h ⊢
    cases hline : scanLine first with
    | skip =>
      simp only [hline] at h ⊢
      exact ih h
    | done => rfl
    | data data =>
      simp only [hline] at h ⊢
      cases room with
      | zero => cases h
      | succ room => exact ih h

/-- Where the lines at hand lead to the end, more of them do so for a scanner in the same place. -/
theorem scannerEnds_mono (h : s.scannerEnds = true) (hplace : s'.scanner = s.scanner) (hdata : s'.dataChan = s.dataChan)
    (hlines : ∀ (pre : List String) (room : Nat), linesEnd s.ended (pre ++ s.received) room = true →
      linesEnd s'.ended (pre ++ s'.received) room = true) : s'.scannerEnds = true := by
  unfold scannerEnds at h ⊢
  rw [hplace, hdata]
  cases hs : s.scanner with
  | scanning =>
    rw [hs] at h
    exact hlines [] _ h
  | checking line =>
    rw [hs] at h
    exact hlines [line] _ h
  | queueing data =>
    rw [hs] at h
    simp only at h ⊢
    split at h
    · cases h
    · exact hlines [] _ h
  | returning => rfl
  | stopping => rfl
  | exited =>
    rw [hs] at h
    cases h

/-- What comes from upstream takes the scanner no further from its end. -/
theorem scannerEnds_upstream (he : e.fromUpstream = true) (h : s.scannerEnds = true) : (s.step e).scannerEnds = true := by
  cases e with
  | line line =>
    cases hended : s.ended with
    | true => simpa [StreamConf.step, hended] using h
    | false =>
      refine scannerEnds_mono h ?_ ?_ fun pre room hlines => ?_
      · simp [StreamConf.step, hended]
      · simp [StreamConf.step, hended]
      · rw [hended] at hlines
        simpa [StreamConf.step, hended] using linesEnd_append [line] hlines nofun
  | eof =>
    refine scannerEnds_mono h rfl rfl fun pre room hends => ?_
    have hlines := linesEnd_append [] hends fun _ _ => rfl
    rwa [List.append_nil] at hlines
  | scanner _ | handler _ | ping _ | main => cases he

/-! ## Steps while the main select waits -/

/-- The main select waits, so `ctx` is not cancelled; nothing is in `stopChan`. -/
structure Idle (s : StreamConf) : Prop where
  main : s.main = .waiting
  ctx : s.cancelled = false
  stop : s.stopChan = 0

theorem Idle.not_stopReady (h : Idle s) : s.stopReady = false := by
  simp [stopReady, h.main, h.stop]

/-- A step of the scanner with nothing to stop it: it stays on its way, or it sends its message. -/
theorem scannerEnds_scannerStep (h : Idle s) (pick : ScannerPick) (hplace : s.scanner ≠ .stopping) :
    (s.scannerStep pick).scannerEnds = s.scannerEnds ∧ Idle (s.scannerStep pick) := by
  have hready := h.not_stopReady
  have hgo : (s.stopReady || s.cancelled) = false := by rw [hready, h.ctx]; rfl
  unfold scannerStep
  cases hs : s.scanner with
  | scanning =>
    cases hlines : s.received with
    | nil =>
      simp only
      split
      · rename_i hended
        exact ⟨by simp [scannerEnds, hs, hlines, linesEnd, hended], ⟨h.main, h.ctx, h.stop⟩⟩
      · exact ⟨rfl, h⟩
    | cons line rest => exact ⟨by simp [scannerEnds, hs, hlines], ⟨h.main, h.ctx, h.stop⟩⟩
  | checking line =>
    cases pick with
    | stop => simpa [hready] using h
    | ctx => simpa [h.ctx] using h
    | next =>
      simp only [hgo, Bool.false_eq_true, if_false]
      cases hline : scanLine line with
      | skip | data _ | done => exact ⟨by simp [scannerEnds, hs, linesEnd, hline], ⟨h.main, h.ctx, h.stop⟩⟩
  | queueing data =>
    cases pick with
    | stop => simpa [hready] using h
    | ctx => simpa [h.ctx] using h
    | next =>
      simp only
      split
      · obtain ⟨room, hroom'⟩ : ∃ room, dataChanCap - s.dataChan.length = room + 1 :=
          ⟨dataChanCap - s.dataChan.length - 1, by omega⟩
        have hless : dataChanCap - (s.dataChan.length + 1) = room := by omega
        exact ⟨by simp [scannerEnds, hs, hroom', hless], ⟨h.main, h.ctx, h.stop⟩⟩
      · exact ⟨rfl, h⟩
  | returning => exact ⟨by simp [scannerEnds, hs], ⟨h.main, h.ctx, h.stop⟩⟩
  | stopping => exact absurd hs hplace
  | exited => exact ⟨rfl, h⟩

/-! ## A silent stream -/

/-- The data handler has exited, the main select waits, nothing is in `stopChan`, and the scanner is not on its way out. -/
structure Silent (s : StreamConf) : Prop where
  handler : s.handler = .exited
  idle : Idle s
  scanner : s.scannerEnds = false

theorem Silent.keep (h : Silent s) (hidle : Idle s') (hhandler : s'.handler = s.handler)
    (hends : s'.scannerEnds = s.scannerEnds) : Silent s' :=
  ⟨hhandler.trans h.handler, hidle, hends.trans h.scanner⟩

theorem handler_scannerStep (pick : ScannerPick) : (s.scannerStep pick).handler = s.handler := by
  unfold scannerStep sendStop takeStop
  repeat' split
  all_goals rfl

/-- Only the upstream ends the silence. -/
theorem Silent.step (h : Silent s) (he : e.fromUpstream = false) : Silent (s.step e) := by
  have hready := h.idle.not_stopReady
  cases e with
  | line _ | eof => cases he
  | scanner pick =>
    have hplace : s.scanner ≠ .stopping := by
      intro hs
      have hends := h.scanner
      simp [scannerEnds, hs] at hends
    obtain ⟨hends, hidle⟩ := scannerEnds_scannerStep h.idle pick hplace
    exact h.keep hidle (handler_scannerStep pick) hends
  | handler outcome => simpa [StreamConf.step, handlerStep, h.handler] using h
  | ping pick =>
    have hexit : s.pingExit pick = s := by
      cases pick <;> simp [pingExit, hready, h.idle.ctx]
    simp only [StreamConf.step, pingStep]
    cases hping : s.ping with
    | waiting =>
      simp only [hexit]
      split
      · exact h.keep ⟨h.idle.main, h.idle.ctx, h.idle.stop⟩ rfl rfl
      · exact h
    | pinging =>
      simp only [hexit]
      split
      · split
        · exact h
        · exact h.keep ⟨h.idle.main, h.idle.ctx, h.idle.stop⟩ rfl rfl
      · exact h
    | exited => exact h
  | main => simpa [StreamConf.step, mainStep, h.idle.main, h.idle.stop] using h

/-- A silent stream hangs. -/
theorem Silent.hangs (h : Silent s) : s.Hangs := by
  refine ⟨h.handler, h.idle.main, fun es hes => ?_⟩
  have hrun : Along StreamConf.step (fun _ e => e.fromUpstream = false) s es := along_of_mem hes s
  exact (hrun.invariant (fun _ _ he hs => hs.step he) h).idle.stop

/-! ## A scanner on its way out -/

/-- The steps the scanner has before it at most, on its way to its message. -/
def toGo (s : StreamConf) : Nat :=
  match s.scanner with
  | .scanning => 3 * s.received.length + 2
  | .checking _ => 3 * s.received.length + 4
  | .queueing _ => 3 * s.received.length + 3
  | .returning => 1
  | .stopping | .exited => 0

/-- A scanner that is on its way out, with nothing to stop it, gets on. -/
theorem toGo_scannerStep (h : Idle s) (hends : s.scannerEnds = true) (hplace : s.scanner ≠ .stopping) :
    toGo (s.scannerStep .next) < toGo s := by
  have hgo : (s.stopReady || s.cancelled) = false := by rw [h.not_stopReady, h.ctx]; rfl
  unfold scannerStep
  cases hs : s.scanner with
  | scanning =>
    cases hlines : s.received with
    | nil =>
      have hended : s.ended = true := by simpa [scannerEnds, hs, hlines, linesEnd] using hends
      simp [toGo, hs, hlines, hended]
    | cons line rest =>
      simp only [toGo, hs, hlines, List.length_cons]
      omega
  | checking line =>
    simp only [hgo, Bool.false_eq_true, if_false]
    cases hline : scanLine line <;> simp [toGo, hs]
  | queueing data =>
    have hroom : s.dataChan.length < dataChanCap := by
      by_contra hfull
      have hzero : dataChanCap - s.dataChan.length = 0 := by omega
      simp [scannerEnds, hs, hzero] at hends
    simp [toGo, hs, hroom]
  | returning => simp [toGo, hs]
  | stopping => exact absurd hs hplace
  | exited => simp [scannerEnds, hs] at hends

/-- Such a scanner sends its message, without anything further from upstream. -/
theorem not_neverStops (h : Idle s) (hends : s.scannerEnds = true) : ¬ s.NeverStops := by
  induction hn : toGo s using Nat.strong_induction_on generalizing s with
  | _ n ih =>
    intro hnever
    by_cases hplace : s.scanner = .stopping
    · have hsend := hnever [.scanner .next] (by simp [StreamEvent.fromUpstream])
      simp [StreamConf.step, scannerStep, hplace, canSendStop, sendStop, stopChanCap, h.stop, h.main] at hsend
    obtain ⟨hends', hidle⟩ := scannerEnds_scannerStep h .next hplace
    refine ih _ (hn ▸ toGo_scannerStep h hends hplace) hidle (hends'.trans hends) rfl fun es hes => ?_
    refine hnever (.scanner .next :: es) fun e he => ?_
    rcases List.mem_cons.1 he with rfl | he
    · rfl
    · exact hes e he

/-! ## What leads to a silent stream -/

/-- `ctx` is cancelled only after the main select has been left. -/
def CtxOk (s : StreamConf) : Prop := s.main = .waiting ∨ s.main = .left → s.cancelled = false

theorem main_scannerStep (pick : ScannerPick) : (s.scannerStep pick).main = s.main ∧ (s.scannerStep pick).cancelled = s.cancelled := by
  unfold scannerStep sendStop takeStop
  repeat' split
  all_goals exact ⟨rfl, rfl⟩

theorem main_handlerStep (outcome : HandlerOutcome) :
    (s.handlerStep outcome).main = s.main ∧ (s.handlerStep outcome).cancelled = s.cancelled := by
  unfold handlerStep sendStop
  repeat' split
  all_goals exact ⟨rfl, rfl⟩

theorem main_pingStep (pick : PingPick) : (s.pingStep pick).main = s.main ∧ (s.pingStep pick).cancelled = s.cancelled := by
  unfold pingStep pingExit takeStop
  repeat' split
  all_goals exact ⟨rfl, rfl⟩

/-- Every step keeps the context in order. -/
theorem ctxOk_step (s : StreamConf) (e : StreamEvent) (h : CtxOk s) : CtxOk (s.step e) := by
  unfold CtxOk at h ⊢
  cases e with
  | line line =>
    simp only [StreamConf.step]
    split <;> exact h
  | eof => exact h
  | scanner pick =>
    obtain ⟨hmain, hctx⟩ := main_scannerStep pick
    rwa [StreamConf.step, hmain, hctx]
  | handler outcome =>
    obtain ⟨hmain, hctx⟩ := main_handlerStep outcome
    rwa [StreamConf.step, hmain, hctx]
  | ping pick =>
    obtain ⟨hmain, hctx⟩ := main_pingStep pick
    rwa [StreamConf.step, hmain, hctx]
  | main =>
    simp only [StreamConf.step, mainStep]
    cases hmain : s.main with
    | waiting =>
      simp only
      split
      · intro _
        exact h (.inl hmain)
      · exact h
    | left => simp
    | notifying =>
      simp only [sendStop]
      split <;> simp [hmain]
    | collecting =>
      simp only
      split <;> simp [hmain]
    | returned => simp [hmain]

/-- A stream hangs exactly where it is silent. -/
theorem hangs_iff_silent (hctx : CtxOk s) : s.Hangs ↔ Silent s := by
  refine ⟨fun ⟨hhandler, hmain, hnever⟩ => ?_, Silent.hangs⟩
  have hidle : Idle s := ⟨hmain, hctx (.inl hmain), hnever [] (by simp)⟩
  refine ⟨hhandler, hidle, ?_⟩
  by_contra hends
  exact not_neverStops hidle (by simpa using hends) hnever

/-- A scanner that takes a message off `stopChan` is returning. -/
theorem stopChan_scannerStep (pick : ScannerPick) :
    s.stopChan ≤ (s.scannerStep pick).stopChan ∨ (s.scannerStep pick).scanner = .returning := by
  unfold scannerStep sendStop takeStop
  repeat' split
  all_goals simp

theorem scanner_pingStep (pick : PingPick) : (s.pingStep pick).handler = s.handler ∧ (s.pingStep pick).scannerEnds = s.scannerEnds := by
  unfold pingStep pingExit takeStop
  repeat' split
  all_goals exact ⟨rfl, rfl⟩

theorem stopChan_pingExit (s : StreamConf) (pick : PingPick) :
    (s.pingExit pick).stopChan = s.stopChan ∨ pick = .stop ∧ (s.pingExit pick).stopChan = s.stopChan - 1 := by
  cases pick with
  | stop =>
    simp only [pingExit, takeStop]
    split <;> simp
  | ctx =>
    simp only [pingExit]
    split <;> simp
  | tick | written => exact .inl rfl

theorem stopChan_pingStep (pick : PingPick) : (s.pingStep pick).stopChan = s.stopChan ∨
      pick = .stop ∧ s.ping ≠ .exited ∧ (s.pingStep pick).stopChan = s.stopChan - 1 := by
  have hexit := stopChan_pingExit s pick
  unfold pingStep
  cases hping : s.ping with
  | exited => exact .inl rfl
  | waiting =>
    simp only
    split
    · exact .inl rfl
    · exact hexit.imp_right fun ⟨hpick, hstop⟩ => ⟨hpick, by simp, hstop⟩
  | pinging =>
    simp only
    split
    · left
      split <;> rfl
    · exact hexit.imp_right fun ⟨hpick, hstop⟩ => ⟨hpick, by simp, hstop⟩

/-- A step of the scanner makes no stream silent that was not. -/
theorem Silent.of_scannerStep {pick : ScannerPick} (h : Silent (s.scannerStep pick)) : Silent s := by
  obtain ⟨hmain, hctx⟩ := main_scannerStep pick
  have hreturning : (s.scannerStep pick).scanner ≠ .returning := by
    intro hs
    have hends := h.scanner
    simp [scannerEnds, hs] at hends
  have hstop : s.stopChan = 0 := by
    have hle := (stopChan_scannerStep pick).resolve_right hreturning
    have hzero := h.idle.stop
    omega
  have hidle : Idle s := ⟨hmain.symm.trans h.idle.main, hctx.symm.trans h.idle.ctx, hstop⟩
  have hplace : s.scanner ≠ .stopping := by
    intro hs
    have hsent := h.idle.stop
    simp [scannerStep, hs, canSendStop, sendStop, stopChanCap, hidle.stop, hidle.main] at hsent
  obtain ⟨hends, -⟩ := scannerEnds_scannerStep hidle pick hplace
  exact ⟨(handler_scannerStep pick).symm.trans h.handler, hidle, hends.symm.trans h.scanner⟩

/-- The same for the data handler: on its exit it sends a message. -/
theorem Silent.of_handlerStep {outcome : HandlerOutcome} (h : Silent (s.handlerStep outcome)) : Silent s := by
  have hmain := (main_handlerStep outcome).1.symm.trans h.idle.main
  have hhandler := h.handler
  have hstop := h.idle.stop
  cases hs : s.handler with
  | exited => simpa [handlerStep, hs] using h
  | receiving =>
    simp only [handlerStep, hs] at hhandler
    split at hhandler
    · cases hhandler
    split at hhandler
    · cases hhandler
    · rw [hs] at hhandler
      cases hhandler
  | handling data =>
    simp only [handlerStep, hs] at hhandler
    split at hhandler <;> cases hhandler
  | stopping =>
    simp only [handlerStep, hs] at hhandler hstop
    split at hhandler
    · rename_i hsend
      simp [hsend, sendStop, hmain] at hstop
    · rw [hs] at hhandler
      cases hhandler

/-- What comes from upstream makes no stream silent that was not: it only helps the scanner. -/
theorem Silent.of_upstream (h : Silent s') (hctx : CtxOk s) (hhandler : s'.handler = s.handler)
    (hmain : s'.main = s.main) (hstop : s'.stopChan = s.stopChan) (hends : s.scannerEnds = true → s'.scannerEnds = true) : Silent s := by
  have hwaits := hmain.symm.trans h.idle.main
  refine ⟨hhandler.symm.trans h.handler, ⟨hwaits, hctx (.inl hwaits), hstop.symm.trans h.idle.stop⟩, ?_⟩
  by_contra hscanner
  exact Bool.false_ne_true (h.scanner.symm.trans (hends (by simpa using hscanner)))

/-- The ping goroutine makes a stream silent only by taking the last message. -/
theorem Silent.of_pingStep {pick : PingPick} (h : Silent (s.pingStep pick)) (hctx : CtxOk s)
    (hleaves : PingLeavesStop s (.ping pick)) : Silent s := by
  obtain ⟨hhandler, hends⟩ := scanner_pingStep pick
  have hhandler' := hhandler.symm.trans h.handler
  have hends' := hends.symm.trans h.scanner
  have hmain := (main_pingStep pick).1.symm.trans h.idle.main
  have hzero : (s.pingStep pick).stopChan = 0 := h.idle.stop
  by_contra hs
  have hnone : s.stopChan ≠ 0 := fun hstop => hs ⟨hhandler', ⟨hmain, hctx (.inl hmain), hstop⟩, hends'⟩
  rcases stopChan_pingStep pick with hsame | ⟨rfl, hping, htaken⟩
  · exact hnone (hsame.symm.trans hzero)
  · have hone : s.stopChan = 1 := by omega
    exact Bool.false_ne_true (hends'.symm.trans (hleaves hping hhandler' hmain hone))

/-- While the main select waits on, its step has done nothing. -/
theorem Silent.of_mainStep (h : Silent s.mainStep) : Silent s := by
  have hmain := h.idle.main
  simp only [mainStep] at h hmain
  cases hm : s.main with
  | waiting =>
    simp only [hm] at h hmain
    split at hmain
    · cases hmain
    · rename_i hopen
      rwa [if_neg hopen] at h
  | left | returned => simp [hm] at hmain
  | notifying | collecting =>
    simp only [hm] at hmain
    split at hmain
    · cases hmain
    · simp [hm] at hmain

/-- A stream that was not silent falls silent exactly where the ping goroutine takes the last message. -/
theorem silent_step_iff (hctx : CtxOk s) (hs : ¬ Silent s) : ¬ Silent (s.step e) ↔ PingLeavesStop s e := by
  constructor
  · intro hstep
    unfold PingLeavesStop
    split
    · intro hping hhandler hmain hone
      by_contra hends
      have hready : s.stopReady = true := by simp [stopReady, hone]
      have hstop : s.pingStep .stop = { s.takeStop with ping := .exited } := by
        cases hp : s.ping <;> simp [pingStep, pingExit, hp, hready] at hping ⊢
      refine hstep ?_
      rw [StreamConf.step, hstop]
      exact ⟨hhandler, ⟨hmain, hctx (.inl hmain), by simp [takeStop, hone]⟩, Bool.eq_false_iff.2 hends⟩
    · trivial
  · intro hleaves h
    cases e with
    | line line =>
      have hsame : (s.step (.line line)).handler = s.handler ∧ (s.step (.line line)).main = s.main ∧
          (s.step (.line line)).stopChan = s.stopChan := by
        simp only [StreamConf.step]
        split <;> exact ⟨rfl, rfl, rfl⟩
      exact hs (h.of_upstream hctx hsame.1 hsame.2.1 hsame.2.2 (scannerEnds_upstream rfl))
    | eof => exact hs (h.of_upstream hctx rfl rfl rfl (scannerEnds_upstream rfl))
    | scanner pick => exact hs h.of_scannerStep
    | handler outcome => exact hs h.of_handlerStep
    | ping pick => exact hs (h.of_pingStep hctx hleaves)
    | main => exact hs h.of_mainStep

end StreamScannerAux

open StreamScannerAux StreamConf

/-- In every run, whatever comes from upstream, whatever the callback does and however the goroutines interleave: no state on the way
has the data handler gone, the main select waiting and nobody to wake it, exactly when the ping goroutine never takes the last message
with the scanner not on its way out. -/
theorem stream_hangs_iff (es : List StreamEvent) :
    (∀ pre, pre <+: es → ¬ (exec StreamConf.step {} pre).Hangs) ↔ Along StreamConf.step PingLeavesStop {} es := by
  have hstart : CtxOk {} := fun _ => rfl
  have hiff := along_iff_reached ctxOk_step (fun s e hctx hs => silent_step_iff hctx hs) hstart
    (fun h => by cases h.handler) es
  rw [hiff]
  refine forall_congr' fun pre => imp_congr_right fun _ => not_congr (hangs_iff_silent ?_)
  exact exec_invariant ctxOk_step hstart pre

/-- One line of data, a callback that asks for a stop, and the ping goroutine is the first to see it. -/
theorem ping_takes_the_stop :
    (exec StreamConf.step {} [.line "data: hello", .scanner .next, .scanner .next, .scanner .next, .handler .handled,
      .handler .stopped, .handler .handled, .ping .stop]).Hangs := by
  refine Silent.hangs ⟨?_, ⟨?_, ?_, ?_⟩, ?_⟩ <;> decide +kernel

/-! ## What the callback is given -/

namespace StreamConf

/-- What the scanner makes of lines, up to the end marker. -/
def scanned : List String → List String
  | [] => []
  | line :: rest =>
    match scanLine line with
    | .skip => scanned rest
    | .data data => data :: scanned rest
    | .done => []

/-- The line that comes from upstream. -/
def arrives (s : StreamConf) : StreamEvent → List String
  | .line line => if s.ended then [] else [line]
  | .eof | .scanner _ | .handler _ | .ping _ | .main => []

/-- The data the callback is called with. -/
def handed (s : StreamConf) : StreamEvent → List String
  | .handler _ => if s.handler = .receiving then s.dataChan.take 1 else []
  | .line _ | .eof | .scanner _ | .ping _ | .main => []

/-- What is to come of the scanner while it is in its loop, where `more` lines follow those at hand. -/
def toScan (s : StreamConf) (more : List String) : Option (List String) :=
  match s.scanner with
  | .scanning => some (scanned (s.received ++ more))
  | .checking line => some (scanned (line :: s.received ++ more))
  | .queueing data => some (data :: scanned (s.received ++ more))
  | .returning | .stopping | .exited => none

/-- What was handed over and what is in `dataChan` begins what the scanner makes of the lines, whatever follows them; in its loop the
scanner completes it. -/
def InOrder (arrived calls : List String) (s : StreamConf) : Prop :=
  ∀ more, calls ++ s.dataChan <+: scanned (arrived ++ more) ∧
    ∀ rest ∈ s.toScan more, calls ++ s.dataChan ++ rest = scanned (arrived ++ more)

variable {arrived calls : List String} {s : StreamConf}

theorem InOrder.start : InOrder [] [] {} :=
  fun more => ⟨by simp, by simp [toScan]⟩

/-- Every step hands over in order. -/
theorem InOrder.step (h : InOrder arrived calls s) (e : StreamEvent) :
    InOrder (arrived ++ s.arrives e) (calls ++ s.handed e) (s.step e) := by
  intro more
  cases e with
  | line line =>
    simp only [StreamConf.step, arrives, handed, List.append_nil]
    split
    · simpa using h more
    have h := h (line :: more)
    unfold toScan at h ⊢
    simpa using h
  | scanner pick =>
    obtain ⟨hbegin, hrest⟩ := h more
    simp only [StreamConf.step, arrives, handed, List.append_nil, scannerStep, takeStop, sendStop]
    unfold toScan at hrest
    repeat' split
    all_goals simp_all [toScan, scanned]
    · rw [← hrest]; simp
  | handler outcome =>
    obtain ⟨hbegin, hrest⟩ := h more
    simp only [StreamConf.step, arrives, handed, handlerStep, sendStop]
    repeat' split
    all_goals simp_all [toScan]
  | eof | ping _ | main =>
    simp only [StreamConf.step, arrives, handed, List.append_nil, pingStep, pingExit, mainStep, takeStop, sendStop]
    repeat' split
    all_goals exact h more

theorem InOrder.run (h : InOrder arrived calls s) (es : List StreamEvent) :
    InOrder (arrived ++ trace StreamConf.step arrives s es) (calls ++ trace StreamConf.step handed s es) (exec StreamConf.step s es) := by
  induction es generalizing s arrived calls with
  | nil => simpa using h
  | cons e es ih => simpa [List.append_assoc] using ih (h.step e)

end StreamConf

/-- In every run, what the callback was given and what waits for it in `dataChan` is a beginning of what the scanner makes of the lines
that have come: nothing is left out, given twice or in another order. -/
theorem stream_hands_over_in_order (es : List StreamEvent) :
    trace StreamConf.step handed {} es ++ (exec StreamConf.step {} es).dataChan <+: scanned (trace StreamConf.step arrives {} es) := by
  simpa using (InOrder.start.run es []).1

/-- The scanner is in its loop. -/
def ScannerPlace.loops : ScannerPlace → Bool
  | .scanning | .checking _ | .queueing _ => true
  | .returning | .stopping | .exited => false

namespace StreamConf

/-- In its loop nothing stops the scanner, and the handler goes on; after it, what was handed over and is in `dataChan` is all there is.
The handler leaves nothing there. -/
structure Complete (arrived calls : List String) (s : StreamConf) : Prop where
  quiet : s.scanner.loops → s.stopChan = 0 ∧ s.cancelled = false ∧ s.main = .waiting ∧ s.dataClosed = false ∧ s.handler ≠ .stopping ∧
    s.handler ≠ .exited
  all : s.scanner.loops = false → s.ended = true ∧ calls ++ s.dataChan = scanned arrived ∨
    ∀ more, calls ++ s.dataChan = scanned (arrived ++ more)
  empty : s.handler = .stopping ∨ s.handler = .exited → s.dataChan = []

variable {arrived calls : List String} {s : StreamConf}

/-- A step of a handler that goes on leaves nothing out. -/
theorem Complete.step (h : Complete arrived calls s) (hin : InOrder arrived calls s) {e : StreamEvent}
    (he : ∀ o, e = .handler o → o = .handled) : Complete (arrived ++ s.arrives e) (calls ++ s.handed e) (s.step e) := by
  obtain ⟨hquiet, hall, hempty⟩ := h
  cases e with
  | line line =>
    simp only [StreamConf.step, arrives, handed, List.append_nil]
    split
    · simpa using ⟨hquiet, hall, hempty⟩
    refine ⟨hquiet, fun hloops => .inr fun more => ?_, hempty⟩
    rcases hall hloops with ⟨hended, -⟩ | hall
    · contradiction
    · simpa using hall (line :: more)
  | scanner pick =>
    have hrest := fun more => (hin more).2
    simp only [StreamConf.step, arrives, handed, List.append_nil, scannerStep, takeStop, sendStop]
    unfold toScan at hrest
    repeat' split
    all_goals constructor
    all_goals simp_all [ScannerPlace.loops, scanned, stopReady]
    · exact .inl (by simpa [scanned] using hrest [])
    · exact .inr hrest
  | handler outcome =>
    obtain rfl := he outcome rfl
    simp only [StreamConf.step, arrives, handed, handlerStep, sendStop]
    repeat' split
    all_goals constructor
    all_goals simp_all
  | eof =>
    simp only [StreamConf.step, arrives, handed, List.append_nil]
    exact ⟨hquiet, fun hloops => (hall hloops).imp (fun h => ⟨rfl, h.2⟩) id, hempty⟩
  | ping _ | main =>
    simp only [StreamConf.step, arrives, handed, List.append_nil, pingStep, pingExit, mainStep, takeStop, sendStop]
    clear hin
    repeat' split
    all_goals refine ⟨fun hloops => ?_, hall, hempty⟩
    all_goals
      have hquiet := hquiet hloops
      clear hall hempty
      simp_all [stopReady]

theorem Complete.run (h : Complete arrived calls s) (hin : InOrder arrived calls s) (es : List StreamEvent)
    (hes : ∀ o, .handler o ∈ es → o = .handled) :
    Complete (arrived ++ trace StreamConf.step arrives s es) (calls ++ trace StreamConf.step handed s es) (exec StreamConf.step s es) := by
  induction es generalizing s arrived calls with
  | nil => simpa using h
  | cons e es ih =>
    have hnext := ih (h.step hin fun o ho => hes o (by simp [ho])) (hin.step e) fun o ho => hes o (by simp [ho])
    simpa [List.append_assoc] using hnext

end StreamConf

/-- Where the callback returns every time, it has been given all the data once the data handler is past its loop. -/
theorem stream_hands_over_all (es : List StreamEvent) (hhandled : ∀ o, .handler o ∈ es → o = .handled)
    (hover : (exec StreamConf.step {} es).handler = .stopping ∨ (exec StreamConf.step {} es).handler = .exited) :
    trace StreamConf.step handed {} es = scanned (trace StreamConf.step arrives {} es) := by
  have hstart : Complete [] [] {} := ⟨by simp, by simp [ScannerPlace.loops], by simp⟩
  obtain ⟨hquiet, hall, hempty⟩ := hstart.run InOrder.start es hhandled
  have hpast : (exec StreamConf.step {} es).scanner.loops = false := by
    by_contra hloops
    have := hquiet (by simpa using hloops)
    simp_all
  rcases hall hpast with ⟨-, htotal⟩ | htotal
  · simpa [hempty hover] using htotal
  · simpa [hempty hover] using htotal []

theorem stream_hands_over_all_sample : trace StreamConf.step handed {} [.line "data: a", .eof, .scanner .next, .scanner .next,
    .scanner .next, .handler .handled, .handler .handled, .scanner .next, .scanner .next, .handler .handled] = ["a"] :=
  (stream_hands_over_all _ (by simp) (by decide +kernel)).trans (by decide +kernel)

end NewApi
