import DleynaRenderer.Foundation.EventSystem
import DleynaRenderer.Foundation.HashTable
import DleynaRenderer.Foundation.BinaryFloat
import DleynaRenderer.Foundation.CString
import DleynaRenderer.Foundation.Decimal
import DleynaRenderer.Foundation.MergeSort
import DleynaRenderer.Foundation.Url
import DleynaRenderer.Foundation.Fields
import DleynaRenderer.Foundation.Product
import DleynaRenderer.Foundation.NestedCallbacks
import DleynaRenderer.Foundation.Publication
import DleynaRenderer.Foundation.Script
import DleynaRenderer.Error
import DleynaRenderer.Player.State
import DleynaRenderer.Introspection
import DleynaRenderer.Manager
import DleynaRenderer.Player.Speeds
import DleynaRenderer.Player.LastChange
import DleynaRenderer.Player.Run
import DleynaRenderer.Player.SpeedTables
import DleynaRenderer.Player.SpeedText
import DleynaRenderer.Player.Rates
import DleynaRenderer.Player.Controls
import DleynaRenderer.Player.Payloads
import DleynaRenderer.Player.Conformance
import DleynaRenderer.Player.RcEvents
import DleynaRenderer.Player.MetaData
import DleynaRenderer.Player.OpenUri
import DleynaRenderer.Player.SelectRate
import DleynaRenderer.Player.Duration
import DleynaRenderer.Player.ProtocolInfo
import DleynaRenderer.Player.Actions
import DleynaRenderer.Player.SpeedOrder
import DleynaRenderer.Player.Tables
import DleynaRenderer.PushHost.Service
import DleynaRenderer.PushHost.Populated
import DleynaRenderer.PushHost.Clients
import DleynaRenderer.PushHost.Triples
import DleynaRenderer.PushHost.Life
import DleynaRenderer.PushHost.Paths
import DleynaRenderer.PushHost.Urls
import DleynaRenderer.PushHost.Serving
import DleynaRenderer.PushHost.Transfers
import DleynaRenderer.PushHost.DlnaHeader
import DleynaRenderer.Device.Context
import DleynaRenderer.Device.Independence
import DleynaRenderer.Device.State
import DleynaRenderer.Device.Subscriptions
import DleynaRenderer.Upnp.Registry
import DleynaRenderer.Upnp.Entry
import DleynaRenderer.Upnp.Declared
import DleynaRenderer.Upnp.Mirror
import DleynaRenderer.Upnp.Orphans
import DleynaRenderer.Upnp.Subscriptions
import DleynaRenderer.Upnp.Hosting
import DleynaRenderer.Upnp.Construction
import DleynaRenderer.Upnp.Callbacks
import DleynaRenderer.Upnp.Interleavings
import DleynaRenderer.Server.Dispatch
import DleynaRenderer.Server.Watchers
import DleynaRenderer.Server.Requests
import DleynaRenderer.Server.HostedFiles
import DleynaRenderer.Server.Bus
import DleynaRenderer.Server.Renderers
import DleynaRenderer.Server.Signatures
import DleynaRenderer.Task.Once
import DleynaRenderer.Task.GetProps
import DleynaRenderer.Task.SetProp
import DleynaRenderer.Manager.SetProp
import DleynaRenderer.Manager.Observers
import DleynaRenderer.Task.SetVolume
import DleynaRenderer.Task.Icon
import DleynaRenderer.Task.Settling
import DleynaRenderer.Task.Reports
import DleynaRenderer.Task.Seek
import DleynaRenderer.Task.Actions
import DleynaRenderer.Task.Dialogue
import DleynaRenderer.Task.Conversation
import DleynaRenderer.Task.Conformance
