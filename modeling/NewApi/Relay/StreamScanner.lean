import Mathlib
import NewApi.Lib.Run
import NewApi.Lib.Text

/-!
# The goroutines of a stream

`relay/helper/stream_scanner.go`. `StreamScannerHandler` starts three goroutines and waits: the scanner reads lines from upstream into
`dataChan`, the data handler hands them to a callback, and a third writes pings. One buffered channel, `stopChan`, carries the request to
stop for all of them and for the main select; whoever receives first takes the message. `ctx` is cancelled once the main select has been
left.

No timer runs out, no ping fails and the client stays. A step is one channel or mutex operation; the event picks the case of a select, and
a blocked step changes nothing.
-/

namespace NewApi

/-! ## Lines -/

inductive ScannedLine where
  | skip
  | data (data : String)
  | done
  deriving DecidableEq, Repr

/-- The body of the scan loop after its check for a stop. -/
def scanLine (line : String) : ScannedLine :=
  if line.utf8ByteSize < 6 then .skip
  else if !Text.startsWith line "data:" && !Text.startsWith line "[DONE]" then .skip
  else
    let data := Text.trimSpace (String.ofList (line.toList.drop 5))
    if data = "" then .skip
    else if Text.startsWith data "[DONE]" then .done
    else .data data

/-! ## Where the goroutines stand -/

inductive ScannerPlace where
  /-- In `scanner.Scan()`. -/
  | scanning
  /-- With a line, at the select that asks for a stop. -/
  | checking (line : String)
  /-- At the select that puts data into `dataChan`. -/
  | queueing (data : String)
  /-- Returning, before `close(dataChan)` and `wg.Done()`. -/
  | returning
  /-- Returning, before its message to `stopChan`. -/
  | stopping
  | exited
  deriving DecidableEq, Repr

inductive HandlerPlace where
  /-- At the next data of `dataChan`. -/
  | receiving
  /-- In the callback, with `writeMutex`. -/
  | handling (data : String)
  /-- Returning, after `wg.Done()` and before its message to `stopChan`. -/
  | stopping
  | exited
  deriving DecidableEq, Repr

inductive PingPlace where
  /-- At the select of its loop. -/
  | waiting
  /-- At the select that waits for the ping to be written. -/
  | pinging
  | exited
  deriving DecidableEq, Repr

inductive MainPlace where
  /-- In the main select. -/
  | waiting
  /-- After it, before `cancel()`. -/
  | left
  /-- In the clean-up, before its message to `stopChan`. -/
  | notifying
  /-- In the clean-up, waiting for the goroutines. -/
  | collecting
  /-- Returned, with `stopChan` closed. -/
  | returned
  deriving DecidableEq, Repr

def stopChanCap : Nat := 3

def dataChanCap : Nat := 10

/-- The stream: the lines not scanned yet, the channels, with the number of messages in `stopChan`, and the goroutines. -/
structure StreamConf where
  received : List String := []
  ended : Bool := false
  stopChan : Nat := 0
  dataChan : List String := []
  dataClosed : Bool := false
  cancelled : Bool := false
  writeMutex : Bool := false
  scanner : ScannerPlace := .scanning
  handler : HandlerPlace := .receiving
  ping : PingPlace := .waiting
  main : MainPlace := .waiting
  deriving DecidableEq, Repr

/-- The way a select of the scanner goes on, where there are several. -/
inductive ScannerPick where
  /-- `<-stopChan`. -/
  | stop
  /-- `<-ctx.Done()`. -/
  | ctx
  /-- The default, or the data. -/
  | next
  deriving DecidableEq, Repr

/-- What the callback does: it returns, or asks for a stop, or panics. -/
inductive HandlerOutcome where
  | handled | stopped | panicked
  deriving DecidableEq, Repr

/-- The way a select of the ping goroutine goes on. -/
inductive PingPick where
  /-- `<-pingTicker.C`. -/
  | tick
  /-- The ping is written. -/
  | written
  /-- `<-stopChan`. -/
  | stop
  /-- `<-ctx.Done()`. -/
  | ctx
  deriving DecidableEq, Repr

/-- What happens next: a line or the end from upstream, or a step of a goroutine. -/
inductive StreamEvent where
  | line (line : String)
  | eof
  | scanner (pick : ScannerPick)
  | handler (outcome : HandlerOutcome)
  | ping (pick : PingPick)
  | main
  deriving DecidableEq, Repr

def StreamEvent.fromUpstream : StreamEvent → Bool
  | .line _ | .eof => true
  | .scanner _ | .handler _ | .ping _ | .main => false

namespace StreamConf

variable (s : StreamConf)

/-- A receive from `stopChan` does not block. -/
def stopReady : Bool := decide (0 < s.stopChan) || decide (s.main = .returned)

/-- A receive from `stopChan`; a closed channel stays as it is when it is empty. -/
def takeStop : StreamConf := { s with stopChan := s.stopChan - 1 }

/-- `SafeSendBool(stopChan, true)` does not block: there is room, or the channel is closed. -/
def canSendStop : Bool := decide (s.stopChan < stopChanCap) || decide (s.main = .returned)

/-- `SafeSendBool(stopChan, true)`; the panic of a send to a closed channel is recovered. -/
def sendStop : StreamConf := if s.main = .returned then s else { s with stopChan := s.stopChan + 1 }

def scannerStep (pick : ScannerPick) : StreamConf :=
  match s.scanner with
  | .scanning =>
    match s.received with
    | line :: rest => { s with received := rest, scanner := .checking line }
    | [] => if s.ended then { s with scanner := .returning } else s
  | .checking line =>
    match pick with
    | .stop => if s.stopReady then { s.takeStop with scanner := .returning } else s
    | .ctx => if s.cancelled then { s with scanner := .returning } else s
    | .next =>
      if s.stopReady || s.cancelled then s
      else match scanLine line with
        | .skip => { s with scanner := .scanning }
        | .data data => { s with scanner := .queueing data }
        | .done => { s with scanner := .returning }
  | .queueing data =>
    match pick with
    | .stop => if s.stopReady then { s.takeStop with scanner := .returning } else s
    | .ctx => if s.cancelled then { s with scanner := .returning } else s
    | .next =>
      if s.dataChan.length < dataChanCap then { s with dataChan := s.dataChan ++ [data], scanner := .scanning } else s
  | .returning => { s with dataClosed := true, scanner := .stopping }
  | .stopping => if s.canSendStop then { s.sendStop with scanner := .exited } else s
  | .exited => s

/-- A step of the data handler goroutine. A panic of the callback leaves `writeMutex` locked. -/
def handlerStep (outcome : HandlerOutcome) : StreamConf :=
  match s.handler with
  | .receiving =>
    match s.dataChan with
    | data :: rest => { s with dataChan := rest, writeMutex := true, handler := .handling data }
    | [] => if s.dataClosed then { s with handler := .stopping } else s
  | .handling _ =>
    match outcome with
    | .handled => { s with writeMutex := false, handler := .receiving }
    | .stopped => { s with writeMutex := false, handler := .stopping }
    | .panicked => { s with handler := .stopping }
  | .stopping => if s.canSendStop then { s.sendStop with handler := .exited } else s
  | .exited => s

/-- The two selects of the ping goroutine have these ways out in common. -/
def pingExit (pick : PingPick) : StreamConf :=
  match pick with
  | .stop => if s.stopReady then { s.takeStop with ping := .exited } else s
  | .ctx => if s.cancelled then { s with ping := .exited } else s
  | .tick | .written => s

/-- A step of the ping goroutine; it tells nobody that it has taken a message. -/
def pingStep (pick : PingPick) : StreamConf :=
  match s.ping with
  | .waiting => if pick = .tick then { s with ping := .pinging } else s.pingExit pick
  | .pinging =>
    if pick = .written then (if s.writeMutex then s else { s with ping := .waiting })
    else s.pingExit pick
  | .exited => s

/-- Every goroutine has called `wg.Done()`. -/
def waited : Bool :=
  decide (s.ping = .exited) && decide (s.handler = .stopping ∨ s.handler = .exited) &&
    decide (s.scanner = .stopping ∨ s.scanner = .exited)

def mainStep : StreamConf :=
  match s.main with
  | .waiting => if 0 < s.stopChan then { s.takeStop with main := .left } else s
  | .left => { s with cancelled := true, main := .notifying }
  | .notifying => if s.canSendStop then { s.sendStop with main := .collecting } else s
  | .collecting => if s.waited then { s with main := .returned } else s
  | .returned => s

def step : StreamEvent → StreamConf
  | .line line => if s.ended then s else { s with received := s.received ++ [line] }
  | .eof => { s with ended := true }
  | .scanner pick => s.scannerStep pick
  | .handler outcome => s.handlerStep outcome
  | .ping pick => s.pingStep pick
  | .main => s.mainStep

/-! ## A stream that hangs -/

/-- Without anything further from upstream, nothing is ever put into `stopChan`. -/
def NeverStops : Prop :=
  ∀ es : List StreamEvent, (∀ e ∈ es, e.fromUpstream = false) → (Run.exec step s es).stopChan = 0

/-- The data handler has exited, `StreamScannerHandler` still waits, and no goroutine will wake it. -/
def Hangs : Prop := s.handler = .exited ∧ s.main = .waiting ∧ s.NeverStops

/-- The lines at hand take the scanner to the end of its loop: a `[DONE]` or the end of upstream comes before `dataChan`, with room for
`room` more and nobody to empty it, is full. -/
def linesEnd (ended : Bool) : List String → Nat → Bool
  | [], _ => ended
  | line :: rest, room =>
    match scanLine line with
    | .skip => linesEnd ended rest room
    | .done => true
    | .data _ =>
      match room with
      | 0 => false
      | room + 1 => linesEnd ended rest room

/-- The scanner is on its way to its message to `stopChan`, with what it has from upstream. -/
def scannerEnds : Bool :=
  let room := dataChanCap - s.dataChan.length
  match s.scanner with
  | .scanning => linesEnd s.ended s.received room
  | .checking line => linesEnd s.ended (line :: s.received) room
  | .queueing _ =>
    match room with
    | 0 => false
    | room + 1 => linesEnd s.ended s.received room
  | .returning | .stopping => true
  | .exited => false

/-- The ping goroutine does not take the last message that would wake the main select: when it receives from `stopChan` while the data
handler has exited and the main select waits, another message is left or the scanner is on its way to its own. -/
def PingLeavesStop : StreamEvent → Prop
  | .ping .stop =>
    s.ping ≠ .exited → s.handler = .exited → s.main = .waiting → s.stopChan = 1 → s.scannerEnds = true
  | _ => True

end StreamConf

end NewApi
