import RangeSurvey.Site

/-!
# Calls under way

The steps of a station as calls that wait. Looking at a call lets it go on as far as it can: until
it is done, or until it waits for the engine, for the latch, or for the radio.
-/

namespace RangeSurvey

/-- How a call stands after somebody has looked at it. -/
inductive Progress where
  | waiting (call : Call)
  | done (status : Status)
deriving DecidableEq, Repr

/-- A sum of two durations, which stops at the longest one that sixteen bits hold. -/
def addDurations (a b : UInt16) : UInt16 := UInt16.ofNat (min (a.toNat + b.toNat) 65535)

/-- What a radio does when it is asked for something, and its answer. What is asked of a chain or of
an engine is done elsewhere. -/
def HardwareCall.perform {H : Type} [Hardware H] (hardware : H) :
    HardwareCall → H × Except StartError (List RadioEvent)
  | .write unit offset bytes => (Hardware.write hardware unit bytes offset, .ok [])
  | .control unit length ranging => (Hardware.setControl hardware unit length ranging, .ok [])
  | .armTransmit unit start => Hardware.armTransmit hardware unit start
  | .armReceive unit timeout start => Hardware.armReceive hardware unit timeout start
  | .register .. | .remove .. | .exchange .. | .measured .. => (hardware, .ok [])

namespace Site

variable {H : Type} [Hardware H]

/-- Asks a unit for something, and puts it on record. -/
def ask (site : Site H) (c : HardwareCall) : Site H × Except StartError (List RadioEvent) :=
  let (hardware, answer) := c.perform site.hardware
  (({ site with hardware } : Site H).call c, answer)

def finish (site : Site H) (c : Call) : Site H × Progress :=
  match site.stations[c.station]? with
  | none => (site, .waiting c)
  | some s => (site, .done s.status)

/-- Ends the exchange of a call. A request stores what the engine measured. -/
def endExchange (site : Site H) (c : Call) (s : Station) : Exchange → Site H
  | .listen .. => site.update c.station Station.freeEngine
  | .request .. =>
    match s.ownRow? with
    | none => site.update c.station Station.freeEngine
    | some row =>
      let (reported, cells) := Hardware.measured site.hardware s.unit s.slot row.cells
      (site.call (.measured s.unit s.slot row.capacity)).act c.station
        fun s => s.endRequest reported cells

def lookExchange (site : Site H) (c : Call) (s : Station) (first : Bool) (e : Exchange) :
    Site H × Progress :=
  let (hardware, ended) := Hardware.pollExchange site.hardware s.unit first e
  let site := { site with hardware }
  if ended then (site.endExchange c s e).finish c
  else (site, .waiting { c with stage := .exchanging e })

def beginExchange (site : Site H) (c : Call) (s : Station) (e : Exchange) : Site H × Progress :=
  ((site.update c.station Station.takeEngine).call (.exchange s.unit e)).lookExchange c s true e

def tryRequest (site : Site H) (c : Call) (s : Station) (mode : Sidedness) :
    Site H × Progress :=
  if s.engineBusy then (site, .waiting { c with stage := .requestTurn mode })
  else site.beginExchange c s (.request everybody c.deadline mode s.peers)

def listenTimeout (site : Site H) (s : Station) : UInt16 :=
  addDurations
    (Hardware.airTime site.hardware s.unit (Hardware.requestLength site.hardware s.unit))
    (Hardware.listenMargin site.hardware s.unit)

def tryListen (site : Site H) (c : Call) (s : Station) : Site H × Progress :=
  if s.engineBusy then (site, .waiting { c with stage := .listenTurn })
  else
    let timeout := site.listenTimeout s
    (site.say c.station (.listening timeout)).beginExchange c s (.listen c.deadline timeout)

/-- Looks at a call that has armed its radio: it is done when the token is back. -/
def lookArmed (site : Site H) (c : Call) (s : Station) : Site H × Progress :=
  match s.latch with
  | .held => (site, .waiting { c with stage := .armed })
  | .available => (site.update c.station Station.endWait).finish c

/-- Looks again after the radio has been armed and may have reported something already. -/
def waitArmed (site : Site H) (c : Call) : Site H × Progress :=
  match site.stations[c.station]? with
  | none => (site, .waiting c)
  | some s => site.lookArmed c s

/-- Hands the first `length` bytes of a station's buffer to its radio and starts to send them. -/
def transmit (site : Site H) (c : Call) (s : Station) (length : Nat) : Site H × Progress :=
  let site := (site.ask (.write s.unit 0 (s.buffer.take length))).1
  let site := (site.ask (.control s.unit length false)).1
  match site.ask (.armTransmit s.unit c.deadline) with
  | (site, .ok events) =>
    ((site.raiseAll s.unit events).say c.station (.broadcastStarted length)).waitArmed c
  | (site, .error _) => (site.act c.station Station.failTransmit).finish c

theorem transmit_eq (site : Site H) (c : Call) (s : Station) (length : Nat) :
    site.transmit c s length =
      let bytes := s.buffer.take length
      let hardware := Hardware.write site.hardware s.unit bytes 0
      let hardware := Hardware.setControl hardware s.unit length false
      let (hardware, started) := Hardware.armTransmit hardware s.unit c.deadline
      let site := ((({ site with hardware } : Site H).call (.write s.unit 0 bytes)).call
        (.control s.unit length false)).call (.armTransmit s.unit c.deadline)
      match started with
      | .ok events =>
        ((site.raiseAll s.unit events).say c.station (.broadcastStarted length)).waitArmed c
      | .error _ => (site.act c.station Station.failTransmit).finish c := by
  rcases answer : Hardware.armTransmit (Hardware.setControl (Hardware.write site.hardware s.unit
    (s.buffer.take length) 0) s.unit length false) s.unit c.deadline with ⟨hardware, _ | events⟩
  all_goals simp only [transmit, ask, HardwareCall.perform, call, record, answer]

def tryBroadcast (site : Site H) (c : Call) (s : Station) : Site H × Progress :=
  match s.latch with
  | .held => (site, .waiting c)
  | .available =>
    let (s, prepared) := s.beginBroadcast
    let site := site.update c.station fun _ => s
    match prepared with
    | .frame length => site.transmit c s length
    | nothing => (site.act c.station fun s => s.skipBroadcast nothing).finish c

def receiveTimeout (site : Site H) (s : Station) : UInt16 :=
  addDurations (Hardware.airTime site.hardware s.unit (Frame.maxLength s.nodeCount))
    s.config.receiveMargin

def tryReceive (site : Site H) (c : Call) (s : Station) : Site H × Progress :=
  match s.latch with
  | .held => (site, .waiting c)
  | .available =>
    let site := site.update c.station Station.beginReceive
    match site.ask (.armReceive s.unit (site.receiveTimeout s) c.deadline) with
    | (site, .ok events) => (site.raiseAll s.unit events).waitArmed c
    | (site, .error _) => (site.act c.station Station.failReceive).finish c

theorem tryReceive_eq (site : Site H) (c : Call) (s : Station) :
    site.tryReceive c s =
      match s.latch with
      | .held => (site, .waiting c)
      | .available =>
        let site := site.update c.station Station.beginReceive
        let timeout := site.receiveTimeout s
        let (hardware, started) := Hardware.armReceive site.hardware s.unit timeout c.deadline
        let site := ({ site with hardware } : Site H).call (.armReceive s.unit timeout c.deadline)
        match started with
        | .ok events => (site.raiseAll s.unit events).waitArmed c
        | .error _ => (site.act c.station Station.failReceive).finish c := by
  rw [tryReceive]
  split
  · rfl
  · rcases answer : Hardware.armReceive (site.update c.station Station.beginReceive).hardware s.unit
      ((site.update c.station Station.beginReceive).receiveTimeout s) c.deadline
      with ⟨hardware, _ | events⟩
    all_goals simp only [ask, HardwareCall.perform, answer]

/-- Lets a call of station `s` go on as far as it can. -/
def advance (site : Site H) (c : Call) (s : Station) : Site H × Progress :=
  match c.stage with
  | .fresh =>
    match c.activity with
    | .request => (site.act c.station Station.beginRequest).tryRequest c s s.config.mode
    | .listen => (site.update c.station Station.beginListen).tryListen c s
    | .broadcast => site.tryBroadcast c s
    | .receive => site.tryReceive c s
  | .requestTurn mode => site.tryRequest c s mode
  | .listenTurn => site.tryListen c s
  | .exchanging e => site.lookExchange c s false e
  | .armed => site.lookArmed c s

def look (site : Site H) (c : Call) : Site H × Progress :=
  match site.stations[c.station]? with
  | none => (site, .waiting c)
  | some s => site.advance c s

/-- Gives a call up: the engine is free again if the call had it, and a token that the call took
stays taken. -/
def abandon (site : Site H) (c : Call) : Site H :=
  match c.stage with
  | .exchanging _ => site.update c.station Station.freeEngine
  | _ => site

end Site

end RangeSurvey
