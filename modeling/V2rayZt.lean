import V2rayZt.Lib.Machine
import V2rayZt.Lib.CyclicWindow
import V2rayZt.Lib.SortedSet
import V2rayZt.Lib.TicketLock
import V2rayZt.Lib.Decimal
import V2rayZt.Lib.Text
import V2rayZt.Lib.Json
import V2rayZt.RingBuffer
import V2rayZt.GuardedRxQueue
import V2rayZt.RxRouting
import V2rayZt.InetAddress
import V2rayZt.VirtualTap
import V2rayZt.LwipDriver
import V2rayZt.Ang.ConfigManager
import V2rayZt.Ang.Activities
import V2rayZt.Ang.ShareLink
import V2rayZt.Ang.V2rayConfigUtil
import V2rayZt.Ang.Guids
import V2rayZt.Lib.JavaArray
import V2rayZt.Lib.Radix64
import V2rayZt.Ang.Base64
import V2rayZt.Ang.Base64Codec
import V2rayZt.Ang.Base64Lines
import V2rayZt.Ang.Base64Safety
import V2rayZt.Ang.StartVService
import V2rayZt.EthFrame
import V2rayZt.MulticastGroups
import V2rayZt.Ipv6Subnet
import V2rayZt.InetAddressText
import V2rayZt.InetSubnet
import V2rayZt.TapByAddr
import V2rayZt.AddressApi
import V2rayZt.Ang.VpnService
import V2rayZt.InetScope
import V2rayZt.Ang.TemplateFill
import V2rayZt.SelfAwareness
