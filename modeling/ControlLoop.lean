import ControlLoop.Proofs.Clock.PeriodChange
import ControlLoop.Proofs.Filter.Complement
import ControlLoop.Proofs.Filter.Contraction
import ControlLoop.Proofs.Filter.Mean
import ControlLoop.Proofs.Filter.Settling
import ControlLoop.Proofs.Fixed.Coarse
import ControlLoop.Proofs.Fixed.Quotient
import ControlLoop.Proofs.Fixed.RoundTrip
import ControlLoop.Proofs.Motion.Mirror
import ControlLoop.Proofs.Network.Session.ClientId
import ControlLoop.Proofs.Network.Session.Delivery
import ControlLoop.Proofs.Network.Session.Publish
import ControlLoop.Proofs.Network.Session.Schedule
import ControlLoop.Proofs.Network.Station.Supervision
import ControlLoop.Proofs.Network.Station.Waiting
import ControlLoop.Proofs.Servo.Accuracy
import ControlLoop.Proofs.Servo.ExtraPolls
import ControlLoop.Proofs.Servo.Faults
import ControlLoop.Proofs.Servo.Trip
import ControlLoop.Proofs.Telemetry.Truncation
import ControlLoop.Proofs.Wire.Settings
