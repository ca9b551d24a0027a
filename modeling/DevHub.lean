import DevHub.Library.Run
import DevHub.Library.Delimited
import DevHub.Library.StdMap
import DevHub.Communication.TimerRegistry
import DevHub.Communication.WriteQueue
import DevHub.Communication.Senders
import DevHub.Communication.OneReply
import DevHub.Communication.BusyGate
import DevHub.Communication.Lifetime
import DevHub.Equipment.Isolation
import DevHub.Plc.Handled
import DevHub.Plc.Footprint
import DevHub.Plc.ByteOrder
import DevHub.Plc.Pointers
import DevHub.Transcation.WhiteList
import DevHub.Transcation.Returns
import DevHub.Communication.AccessControl
import DevHub.Communication.TwoFormats
import DevHub.Communication.Identify
import DevHub.Communication.TcpClient
import DevHub.Communication.ReplyTimer
import DevHub.Communication.DeviceData
import DevHub.Equipment.BalanceTimer
import DevHub.Equipment.Conformance
import DevHub.Plc.AlarmCode
import DevHub.Plc.Session
import DevHub.Plc.Handshake
import DevHub.Plc.Proxy
import DevHub.Communication.Disconnect
import DevHub.Transcation.CommaData
import DevHub.Plc.Weight
import DevHub.Equipment.SharedScan
import DevHub.Device.Leftover
import DevHub.Equipment.BalanceStream
import DevHub.Equipment.Chunking
import DevHub.Equipment.TimeoutReset
import DevHub.Equipment.FrameBounds
import DevHub.Device.DeviceMonitor
import DevHub.Library.Checks
import DevHub.Library.TextStream
import DevHub.Communication.Connector
import DevHub.Communication.OneShot
import DevHub.Equipment.Barcode
import DevHub.Equipment.ScanBounds
import DevHub.Equipment.CodePairing
import DevHub.Device.DeviceList
import DevHub.Device.DeviceText
import DevHub.Plc.Construct
import DevHub.Plc.ReadBuffer
import DevHub.Transcation.Loading
import DevHub.Transcation.Readings
import DevHub.Transcation.HalfBuilt
import DevHub.Library.XmlTree
import DevHub.Plc.Station
import DevHub.Plc.Outline
import DevHub.Plc.Designer
import DevHub.Plc.WholeLine
import DevHub.Library.Crc
import DevHub.Library.Packed
import DevHub.Library.Space
import DevHub.Modbus.Context
import DevHub.Modbus.Crc16
import DevHub.Modbus.Backends
import DevHub.Modbus.Receive
import DevHub.Modbus.Server
import DevHub.Modbus.Bounds
import DevHub.Modbus.Device
import DevHub.Modbus.Client
import DevHub.Modbus.Commands
import DevHub.Modbus.Confirm
import DevHub.Modbus.Link
import DevHub.Modbus.Late
import DevHub.Modbus.Bus
import DevHub.Tools.ThreadPool
import DevHub.Plc.SerialLine
