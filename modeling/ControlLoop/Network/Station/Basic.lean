import ControlLoop.Procedure
import ControlLoop.Settings

/-!
# WiFi stations

A station keeps a link up over any radio with a bounded number of attempts. One attempt asks the radio to associate and
then queries the link at a fixed interval until it is up or the time is over. What a station does to its radio and
how long it pauses is the list of its events. A radio is a state, and every answer may change it.
-/

namespace ControlLoop

set_option autoImplicit false

/-- What a station needs of a radio with states `ρ` and errors `ε`. An association is only begun; that the link is
up shows later. -/
structure Radio (ρ ε : Type) where
  associate : ρ → String → String → Except ε Unit × ρ
  drop : ρ → ρ
  isUp : ρ → Bool × ρ

namespace Station

inductive Error (ε : Type) where
  | radio (cause : ε)
  | timeout (ms : Nat)
  | retriesExhausted (attempts : Nat)
deriving DecidableEq, Repr

def Error.message {ε : Type} (quote : ε → String) : Error ε → String
  | .radio cause => s!"radio error: {quote cause}"
  | .timeout ms => s!"no link after {ms} ms"
  | .retriesExhausted attempts => s!"gave up after {attempts} attempts"

/-- A call of the radio with its answer, a pause, or a log line. -/
inductive Event (ε : Type) where
  | associate (ssid password : String) (reply : Except ε Unit)
  | drop
  | query (up : Bool)
  | wait (ms : Nat)
  | log (line : Log.Line)

variable {ρ ε : Type}

abbrev Action (ρ ε α : Type) := Procedure (Event ε) ρ (Error ε) α

def note (level : Log.Level) (text : String) : Action ρ ε Unit := Procedure.write (.log ⟨level, text⟩)

/-- Asks the radio for the state of the link. -/
def isUp (R : Radio ρ ε) : Action ρ ε Bool := ⟨fun radio =>
  let (up, radio) := R.isUp radio
  ⟨(.ok up, radio), [.query up]⟩⟩

def disconnect (R : Radio ρ ε) : Action ρ ε Unit := do
  Procedure.write .drop
  Procedure.modify R.drop
  note .info "WiFi disconnected"

/-- Lets intervals pass and queries the link after each, until it is up or `waited` has come to the timeout. The
sum of the intervals is capped at `2 ^ 16 - 1`. The events so far come last first. -/
def awaitFrom (R : Radio ρ ε) (interval : Nat) (positive : 0 < interval) (timeout : UInt16) (waited : Nat)
    (radio : ρ) (events : List (Event ε)) : Journal (Event ε) (Except (Error ε) Unit × ρ) :=
  if timeout.toNat ≤ waited then ⟨(.error (.timeout waited), radio), events.reverse⟩
  else
    let total := min (waited + interval) 65535
    let (up, radio) := R.isUp radio
    let events := .query up :: .wait interval :: events
    if up then
      ⟨(.ok (), radio), (.log ⟨.info, s!"WiFi connected after {total} ms"⟩ :: events).reverse⟩
    else awaitFrom R interval positive timeout total radio events
termination_by timeout.toNat - waited
decreasing_by have := timeout.toNat_lt; omega

/-- Waits for the link, with a pause of at least one millisecond before every query. -/
def await (R : Radio ρ ε) (settings : Settings) : Action ρ ε Unit := ⟨fun radio =>
  awaitFrom R (max settings.pollIntervalMs.toNat 1) (by omega) settings.timeoutMs 0 radio []⟩

def associate (R : Radio ρ ε) (settings : Settings) : Action ρ ε Unit := ⟨fun radio =>
  let (ssid, password) := (settings.ssid.text, settings.password.text)
  let (reply, radio) := R.associate radio ssid password
  ⟨(reply.mapError .radio, radio), [.associate ssid password reply]⟩⟩

/-- One attempt. -/
def connect (R : Radio ρ ε) (settings : Settings) : Action ρ ε Unit := do
  note .info s!"WiFi connecting to {settings.ssid.text}"
  associate R settings
  await R settings

/-- Up to `left` attempts, the next of them with number `number`. The link is dropped after each that fails. -/
def attempts (R : Radio ρ ε) (settings : Settings) : (left number : Nat) → Action ρ ε Unit
  | 0, _ => Procedure.fail (.retriesExhausted settings.maxAttempts.toNat)
  | left + 1, number => do
    match ← Procedure.attempt (connect R settings) with
    | .ok () => return ()
    | .error _ =>
      note .error s!"WiFi attempt {number} failed"
      disconnect R
      attempts R settings left (number + 1)

/-- Attempts to connect until one succeeds or their number is used up. -/
def begin (R : Radio ρ ε) (settings : Settings) : Action ρ ε Unit :=
  attempts R settings settings.maxAttempts.toNat 1

/-- Makes one attempt if the link is down. Tells whether the link is up afterwards. -/
def healthCheck (R : Radio ρ ε) (settings : Settings) : Action ρ ε Bool := do
  if ← isUp R then return true
  disconnect R
  match ← Procedure.attempt (connect R settings) with
  | .ok () => pure ()
  | .error _ => note .error "WiFi reconnect failed"
  isUp R

end Station

end ControlLoop
