import TypedUrls.Binary.Basic
import TypedUrls.Binary.Layout
import TypedUrls.Binary.Read
import TypedUrls.Binary.Shortest
import TypedUrls.CSharp.Identifier
import TypedUrls.CSharp.Literal
import TypedUrls.CSharp.TypeName
import TypedUrls.CSharp.Writer
import TypedUrls.Classify.Attributes
import TypedUrls.Classify.Basic
import TypedUrls.Config.Basic
import TypedUrls.Config.Json
import TypedUrls.Descriptor.Basic
import TypedUrls.Descriptor.Builder
import TypedUrls.Descriptor.Json
import TypedUrls.Descriptor.Tree
import TypedUrls.Discovery.Endpoints
import TypedUrls.Discovery.Pages
import TypedUrls.Discovery.Parameters
import TypedUrls.Disk.Basic
import TypedUrls.Disk.Load
import TypedUrls.Documentation
import TypedUrls.Error
import TypedUrls.Generate
import TypedUrls.Json.Basic
import TypedUrls.Json.Decode
import TypedUrls.Json.Doc
import TypedUrls.Json.Reader
import TypedUrls.Model.Basic
import TypedUrls.Model.Json
import TypedUrls.Model.Query
import TypedUrls.Page.Template
import TypedUrls.Route.Template
import TypedUrls.Text.Basic
import TypedUrls.Text.CharClass
import TypedUrls.Text.Lower
import TypedUrls.Text.Quote
import TypedUrls.Text.Utf8
import TypedUrls.Panic
import TypedUrls.UrlHelpers.Endpoints
import TypedUrls.UrlHelpers.Members
import TypedUrls.UrlHelpers.Pages
import TypedUrls.Proofs.Grouping
import TypedUrls.Proofs.EndpointTree
import TypedUrls.Proofs.EndpointDiscovery
import TypedUrls.Proofs.MethodShadowing
import TypedUrls.Proofs.PageFolder
import TypedUrls.Proofs.PageTree
import TypedUrls.Proofs.PageDiscovery
import TypedUrls.Proofs.MemberNames
import TypedUrls.Proofs.LiteralDecoding
import TypedUrls.Proofs.RouteDefaults
import TypedUrls.Proofs.WriterLayout
import TypedUrls.Proofs.SourceLayout
import TypedUrls.Proofs.MethodPlaces
import TypedUrls.Proofs.SameTypes
import TypedUrls.Proofs.SameTypesGeneration
import TypedUrls.Proofs.PartialTypes
import TypedUrls.Proofs.HandlerNames
import TypedUrls.Proofs.TemplateScan
import TypedUrls.Proofs.ParameterTypes
import TypedUrls.Proofs.OverrideWalk
import TypedUrls.Proofs.BaseChains
import TypedUrls.Proofs.TypeLookup
import TypedUrls.Proofs.NullableTypes
import TypedUrls.Proofs.BuilderIndex
import TypedUrls.Proofs.RouteBytes
import TypedUrls.Proofs.CheckedPasses
import TypedUrls.Proofs.Generate
