import EdgeTranslators.Lib.Bytes
import EdgeTranslators.Lib.Base64
import EdgeTranslators.Lib.Run
import EdgeTranslators.Pt.Client
import EdgeTranslators.Pt.Ipso
import EdgeTranslators.Pt.AllOrNothing
import EdgeTranslators.Pt.Temperature
import EdgeTranslators.Pt.NetworkOrder
import EdgeTranslators.Ble.Device
import EdgeTranslators.Ble.Translations
import EdgeTranslators.Ble.Characteristic
import EdgeTranslators.Ble.WriteStatus
import EdgeTranslators.Ble.RoundTrip
import EdgeTranslators.Ble.Bitfield
import EdgeTranslators.Ble.Replies
import EdgeTranslators.Ble.Reconnect
import EdgeTranslators.Ble.Formats
import EdgeTranslators.Ble.FieldCodec
import EdgeTranslators.Ble.DisStrings
import EdgeTranslators.Ble.Buffers
import EdgeTranslators.Ble.Registered
import EdgeTranslators.Ble.AtRest
import EdgeTranslators.Ble.Timers
import EdgeTranslators.Ble.Quit
import EdgeTranslators.Ble.Present
import EdgeTranslators.Ble.Flags
import EdgeTranslators.Ble.Routing
import EdgeTranslators.Ble.ServicePaths
import EdgeTranslators.Ble.StartWait
import EdgeTranslators.PtExample.Connect
import EdgeTranslators.Kaas.Names
import EdgeTranslators.Kaas.Agreement
import EdgeTranslators.Kaas.Startup
import EdgeTranslators.Kaas.Correlation
import EdgeTranslators.Mqtt.Faithful
import EdgeTranslators.Mqtt.Bookkeeping
import EdgeTranslators.Mqtt.GwStatus
import EdgeTranslators.Mqtt.CertificateChain
import EdgeTranslators.Fota.Manifest
import EdgeTranslators.Stress.Callbacks
import EdgeTranslators.Stress.Drain
import EdgeTranslators.Stress.Limits
import EdgeTranslators.Ble.Addresses
import EdgeTranslators.Ble.BackOff
import EdgeTranslators.Ble.References
import EdgeTranslators.Ble.Whitelist
import EdgeTranslators.Ble.Admission
import EdgeTranslators.Ble.Discovery
import EdgeTranslators.Ble.Orphans
import EdgeTranslators.Mqtt.Dispatch
import EdgeTranslators.Kaas.Declared
import EdgeTranslators.Kaas.Writes
import EdgeTranslators.Stress.Locks
import EdgeTranslators.Ble.ReadResult
import EdgeTranslators.Lib.CInt
import EdgeTranslators.Stress.RandomChoice
import EdgeTranslators.Kaas.Portal
import EdgeTranslators.Pt.V1.Instances
import EdgeTranslators.PtExample.Shutdown
import EdgeTranslators.Kaas.Registered
import EdgeTranslators.Kaas.Shown
import EdgeTranslators.Lib.Settlement
import EdgeTranslators.Lib.Utf8
import EdgeTranslators.Mqtt.Replies
import EdgeTranslators.Cli.Docopt
import EdgeTranslators.Cli.Programs
import EdgeTranslators.Lib.Progress
import EdgeTranslators.Mqtt.Lifecycle
import EdgeTranslators.PtExample.Teardown
import EdgeTranslators.Stress.Threads
import EdgeTranslators.Kaas.Requests
