import WebFetch.Console
import WebFetch.Dispatch
import WebFetch.Form.RoundTrip
import WebFetch.Inspect
import WebFetch.Proofs.Codec
import WebFetch.Proofs.Completion.Interleaving
import WebFetch.Proofs.ContentType
import WebFetch.Proofs.Dispatch.Forwarding
import WebFetch.Proofs.Json
import WebFetch.Proofs.NativeHost
import WebFetch.Proofs.Request.Credentials
import WebFetch.Proofs.Request.Referrer
import WebFetch.Proofs.Response.Origin
import WebFetch.Proofs.SearchParams.QueryText
import WebFetch.Proofs.SearchParams.Sorting
import WebFetch.Proofs.Url.Sharing
