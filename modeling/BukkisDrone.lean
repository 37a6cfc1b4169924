import BukkisDrone.Pid.Controller
import BukkisDrone.Pid.HeldError
import BukkisDrone.Motor.Ledc
import BukkisDrone.Numeric.Blend
import BukkisDrone.Sensor.AttitudeBound
import BukkisDrone.Bluetooth.Platform
import BukkisDrone.Bluetooth.Disconnect
import BukkisDrone.Flight.Commands
import BukkisDrone.Flight.Loop
import BukkisDrone.Flight.ThrottleCut
import BukkisDrone.Flight.Landing
import BukkisDrone.Flight.Mirror
import BukkisDrone.Flight.Mixer
import BukkisDrone.Flight.TimeBase
import BukkisDrone.Flight.Interleaving
import BukkisDrone.Flight.Envelope
import BukkisDrone.Flight.Monotone
import BukkisDrone.Numeric.Contraction
import BukkisDrone.Sensor.Forgetting
import BukkisDrone.Pid.AntiWindup
import BukkisDrone.Numeric.Average
import BukkisDrone.Pid.Derivative
import BukkisDrone.Pid.Convergence
import BukkisDrone.Queues.Ring
import BukkisDrone.Bluetooth.Outgoing
import BukkisDrone.Runs.Sessions
import BukkisDrone.Bluetooth.AllowList
import BukkisDrone.Bluetooth.Connection
import BukkisDrone.Bluetooth.DeviceSessions
import BukkisDrone.Bluetooth.SdpLock
import BukkisDrone.Flight.Radio
import BukkisDrone.Bytes.Bits
import BukkisDrone.Flight.Reports
