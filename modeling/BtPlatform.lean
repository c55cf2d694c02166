import BtPlatform.Obex.Lower.Delivery
import BtPlatform.Obex.AuthAgree
import BtPlatform.Obex.Client.Agreed
import BtPlatform.Obex.Client.Events
import BtPlatform.Obex.Server.Gate
import BtPlatform.Obex.Server.Attended
import BtPlatform.Format.Elements
import BtPlatform.Gatt.Advertiser.Delivery
import BtPlatform.Pbap.Names
import BtPlatform.Pbap.Complete
import BtPlatform.Gatt.Scan.Indices
import BtPlatform.Gatt.Scan.Radio
import BtPlatform.Audio.Control
import BtPlatform.Property.Map
import BtPlatform.Property.Reload
import BtPlatform.Gatt.Server.Added
import BtPlatform.Gatt.Scan.Whole
import BtPlatform.Gatt.Scan.Reconfigured
import BtPlatform.Gatt.Value.Exact
import BtPlatform.Gap.Runs
import BtPlatform.HfpAg.Sessions
import BtPlatform.Gatt.Record.Exact
import BtPlatform.Pbap.Resolve.Get
import BtPlatform.Opp.Filter
import BtPlatform.Opp.Names
import BtPlatform.Pbap.Params.Extracted
import BtPlatform.Gatt.Server.Answered
import BtPlatform.Gatt.Client.Guarded
import BtPlatform.Gatt.Client.Interface
import BtPlatform.Gatt.Client.Completed
import BtPlatform.Gatt.Uuid.Text
import BtPlatform.Gatt.Filter.Advertised
import BtPlatform.Gatt.Filter.Queue
import BtPlatform.Gatt.Scan.Tracking
import BtPlatform.Gatt.Library.Registry
import BtPlatform.Gatt.Server.Handles
import BtPlatform.Gap.Bonded
import BtPlatform.Osi.Append
import BtPlatform.Property.Replies
import BtPlatform.Property.Restart
import BtPlatform.Gatt.Scan.Reports
import BtPlatform.Gatt.Scan.Uuids
import BtPlatform.Gatt.Library.Congestion
import BtPlatform.Gatt.Client.Reliable
import BtPlatform.Gatt.Library.Registration
import BtPlatform.Gatt.Value.Accessors
import BtPlatform.Obex.AuthBounds
import BtPlatform.Obex.Server.Attempts
import BtPlatform.Obex.Bulk.Exact
import BtPlatform.Obex.AbortAgreed
import BtPlatform.Stack.Handle
import BtPlatform.Stack.Mbuf.Peeked
import BtPlatform.Obex.AppParams.Exact
import BtPlatform.Obex.Server.Stripped
import BtPlatform.Obex.Server.Serialized
import BtPlatform.Obex.Deferred
import BtPlatform.Obex.Received
import BtPlatform.Stack.Dispatch.Balanced
import BtPlatform.Stack.Dispatch.Wishes
import BtPlatform.EventLoop.Registered
import BtPlatform.Unicode.Agreement
