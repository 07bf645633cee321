import Datk.Store.Tasks
import Datk.Store.Consistent
import Datk.Store.Conserved
import Datk.Store.Mode
import Datk.Store.Restart
import Datk.Store.Time
import Datk.Rtc.Registers
import Datk.Rtc.Sync
import Datk.Lib.Buffer
import Datk.Ota.Manifest
import Datk.Mqtt.Command
import Datk.Lib.Rounding
import Datk.Sensor.Bme680
import Datk.Lib.Decimal
import Datk.Lib.Json
import Datk.Mqtt.Payload
import Datk.Lib.Fifo
import Datk.Sensor.Fusion
import Datk.Boot.Handles
import Datk.Rtc.Daily
import Datk.Lib.Mutex
import Datk.Store.Locks
import Datk.Wifi.Manager
import Datk.Wifi.Reports
import Datk.Wifi.Erase
import Datk.Wifi.Remember
import Datk.Wifi.Request
import Datk.Wifi.Stranded
import Datk.Lib.JsonBytes
import Datk.Wifi.Blocked
import Datk.Wifi.Json
import Datk.Wifi.Status
import Datk.Wifi.Server
import Datk.Wifi.Scan
import Datk.Lib.Bits
import Datk.Rtc.Chip
import Datk.Rtc.Wire
import Datk.Rtc.Master
import Datk.Wifi.Settings
import Datk.Ota.Updaters
import Datk.Lib.Lines
import Datk.Lib.Number
import Datk.Card.File
import Datk.Card.Written
import Datk.Card.Drain
import Datk.Card.RoundTrip
import Datk.Sensor.Uv
import Datk.Button.Press
import Datk.Button.Events
import Datk.Rtc.Encoding
import Datk.Rtc.SetTime
import Datk.Lib.Device
import Datk.Rtc.Device
import Datk.Rtc.Clock
import Datk.Rtc.Restart
import Datk.Lib.Guarded
import Datk.I2c.Port
import Datk.I2c.Driver
import Datk.Wifi.Retries
import Datk.Lib.Merge
import Datk.Wifi.Unique
import Datk.Wifi.Flash
import Datk.Lib.JsonArray
import Datk.Wifi.AccessPoints
import Datk.Wifi.Capacity
import Datk.Lib.Dns
import Datk.Dns.Server
import Datk.Dns.Reply
import Datk.Lib.Timer
import Datk.Lib.CInt
import Datk.Sensor.Calibration
import Datk.Sensor.Temperature
import Datk.Sensor.Pressure
import Datk.Sensor.Humidity
import Datk.Sensor.Ranges
import Datk.Lib.Field
import Datk.Sensor.Config
import Datk.Lib.Register
import Datk.Wifi.Routes
import Datk.Wifi.Portal
import Datk.Wifi.Published
import Datk.Lib.Flow
import Datk.Wifi.Delivered
import Datk.Dns.Lifecycle
import Datk.Store.Order
import Datk.Sensor.Cycle
import Datk.Sensor.Format
import Datk.Wifi.Page
