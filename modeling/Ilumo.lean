import Ilumo.Lib.Machine
import Ilumo.Lib.Bytes
import Ilumo.Lib.Layout
import Ilumo.Lib.Binary32
import Ilumo.Lib.FloatingPoint
import Ilumo.Lib.Grid
import Ilumo.Lib.Script
import Ilumo.Lib.Mailbox
import Ilumo.Lib.Overlap
import Ilumo.Lib.Fallible
import Ilumo.Lib.Runs
import Ilumo.Lib.CodedStream
import Ilumo.Lib.Calls
import Ilumo.Lib.Pipe
import Ilumo.Ros.Time
import Ilumo.Ros.Messages
import Ilumo.Lidar.Protocol
import Ilumo.Lidar.PointCloud
import Ilumo.Lidar.Publisher
import Ilumo.Lidar.Encoding
import Ilumo.Lidar.History
import Ilumo.Lidar.MemorySafety
import Ilumo.Lidar.TimeOffset
import Ilumo.Lidar.FieldTable
import Ilumo.Lidar.ImuBurst
import Ilumo.Lidar.Node
import Ilumo.Lidar.Bursts
import Ilumo.Lidar.Average
import Ilumo.Lidar.Bookkeeping
import Ilumo.Lidar.Stamps
import Ilumo.Blickfeld.Frame
import Ilumo.Blickfeld.Convert
import Ilumo.Blickfeld.Nesting
import Ilumo.Blickfeld.Unpacked
import Ilumo.Blickfeld.Flattening
import Ilumo.Blickfeld.Publishing
import Ilumo.Blickfeld.Recording
import Ilumo.Blickfeld.Replay
import Ilumo.Blickfeld.Footer
import Ilumo.Blickfeld.Connection
import Ilumo.Blickfeld.Answers
import Ilumo.Blickfeld.Liveness
import Ilumo.Blickfeld.Mockup
import Ilumo.Blickfeld.Playback
import Ilumo.Control.PwmController
import Ilumo.Control.Callbacks
import Ilumo.Control.HBridge
import Ilumo.Control.MotorRequest
import Ilumo.Control.Lights
import Ilumo.Control.Teardown
import Ilumo.Stereo.Image
import Ilumo.Stereo.ImageCallback
import Ilumo.Stereo.Partition
import Ilumo.Stereo.Coherence
import Ilumo.Stereo.CaptureOrder
import Ilumo.Stereo.SensorCapture
import Ilumo.Stereo.SensorCallback
import Ilumo.Stereo.Delivery
import Ilumo.Stereo.Overlap
import Ilumo.Stereo.Stamps
import Ilumo.Lib.Client
import Ilumo.Zed.Command
import Ilumo.Zed.Camera
import Ilumo.Zed.Controls
import Ilumo.Zed.Blocks
import Ilumo.Zed.Region
import Ilumo.Zed.Gamma
import Ilumo.Zed.Exposure
import Ilumo.Zed.Automatic
import Ilumo.Zed.Settings
import Ilumo.Thermal.Frame
import Ilumo.Thermal.Publisher
import Ilumo.Thermal.Callback
import Ilumo.Thermal.Survival
import Ilumo.Thermal.Orientation
import Ilumo.Lib.Hexadecimal
import Ilumo.Lib.Registers
import Ilumo.Senxor.Ack
import Ilumo.Senxor.Link
import Ilumo.Senxor.Progress
import Ilumo.Senxor.Mi48
import Ilumo.Senxor.Spi
