import ControlLoop.Wire.Text

/-!
# Settings

The settings of the parts of a device, each with its defaults and its form on the wire.
-/

namespace ControlLoop

set_option autoImplicit false

namespace Servo

structure Settings where
  tickMs : UInt16 := 10
  /-- Degrees per second in both directions; ninety unless set. -/
  velocity : Single := ⟨0x42b40000⟩
deriving DecidableEq, Repr

/-- Equality of the fields as numbers. -/
def Settings.equals (a b : Settings) : Bool := a.tickMs == b.tickMs && a.velocity.equals b.velocity

def Settings.format : Wire.Format Settings :=
  (Wire.Format.uint16.both Wire.Format.single).map (fun (tickMs, velocity) => { tickMs, velocity })
    (fun s => (s.tickMs, s.velocity))

end Servo

namespace Station

structure Settings where
  ssid : BoundedText 32 := BoundedText.empty
  password : BoundedText 64 := BoundedText.empty
  /-- The end of one association attempt. -/
  timeoutMs : UInt16 := 5000
  pollIntervalMs : UInt16 := 500
  maxAttempts : UInt8 := 2
deriving DecidableEq

/-- The default settings for a network, if its name and password fit. -/
def Settings.ofCredentials (ssid password : String) : Option Settings := do
  return { ssid := ← BoundedText.of? 32 ssid, password := ← BoundedText.of? 64 password }

open Wire.Format in
def Settings.format : Wire.Format Settings :=
  ((text 32).both ((text 64).both (uint16.both (uint16.both byte)))).map
    (fun (ssid, password, timeoutMs, pollIntervalMs, maxAttempts) =>
      { ssid, password, timeoutMs, pollIntervalMs, maxAttempts })
    (fun s => (s.ssid, s.password, s.timeoutMs, s.pollIntervalMs, s.maxAttempts))

end Station

namespace Session

structure Settings where
  /-- The least time between two attempts to reconnect. -/
  reconnectIntervalMs : UInt32 := 5000
  /-- What the client ids of a family of devices begin with. -/
  clientFamily : BoundedText 32 := ⟨"ctlkit", by decide⟩
  /-- The bytes that the transport puts before topic and payload. -/
  headerSize : UInt64 := 5
deriving DecidableEq

open Wire.Format in
def Settings.format : Wire.Format Settings :=
  (uint32.both ((text 32).both uint64)).map
    (fun (reconnectIntervalMs, clientFamily, headerSize) => { reconnectIntervalMs, clientFamily, headerSize })
    (fun s => (s.reconnectIntervalMs, s.clientFamily, s.headerSize))

end Session

end ControlLoop
