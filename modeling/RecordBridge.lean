import RecordBridge.Json.Printer
import RecordBridge.Json.Reader
import RecordBridge.Text.Blank
import RecordBridge.Text.Lowercase
import RecordBridge.Text.Quoted
import RecordBridge.Model.Codec
import RecordBridge.Model.Registry
import RecordBridge.SearchFilter.Compile
import RecordBridge.SearchFilter.Codec
import RecordBridge.Query
import RecordBridge.Mapping
import RecordBridge.Key
import RecordBridge.Http.Client
import RecordBridge.Settings.Load
import RecordBridge.Connector.Http
import RecordBridge.Connector.Operation
import RecordBridge.Proofs.Exchange.EditsLast
import RecordBridge.Proofs.Connector.AllOrNothing
import RecordBridge.Proofs.Connector.BulkEdit
import RecordBridge.Proofs.Clause.Grammar
import RecordBridge.Proofs.SearchFilter.Meaning
import RecordBridge.Proofs.Connector.Lookup
import RecordBridge.Proofs.Exchange.Within
import RecordBridge.Proofs.SearchFilter.Outline
import RecordBridge.Proofs.Connector.Restriction
import RecordBridge.Proofs.Mapping
import RecordBridge.Proofs.Connector.ReadBack
import RecordBridge.Proofs.Http.Delivery
import RecordBridge.Proofs.Connector.QueryErrors
import RecordBridge.Proofs.Connector.DirectLoad
import RecordBridge.Proofs.Http.UriReading
import RecordBridge.Proofs.Url.Parts
import RecordBridge.Proofs.Connector.Target
import RecordBridge.Proofs.SearchFilter.WireForm
import RecordBridge.Proofs.Model.WrittenForm
import RecordBridge.Proofs.Selection
import RecordBridge.Proofs.Connector.Policy
import RecordBridge.Proofs.Mapping.SharedName
import RecordBridge.Proofs.Mapping.RoundTrip
import RecordBridge.Proofs.Connector.Found
import RecordBridge.Proofs.Connector.MalformedHit
import RecordBridge.Proofs.Http.Preview
import RecordBridge.Proofs.Connector.LoadedObject
import RecordBridge.Proofs.SearchFilter.FirstFault
import RecordBridge.Proofs.Text.Lowercase
import RecordBridge.Proofs.Key
import RecordBridge.Proofs.Connector.PaddedKey
import RecordBridge.Proofs.Key.LetterCase
import RecordBridge.Proofs.Connector.LookupRoute
import RecordBridge.Proofs.Connector.HitShape
import RecordBridge.Proofs.RemoteObject.StandardValue
import RecordBridge.Proofs.Query.WrittenForm
import RecordBridge.Proofs.Text.Tokens
import RecordBridge.Proofs.Order
import RecordBridge.Proofs.Connector.Scheme
import RecordBridge.Proofs.Connector.Unwritten
