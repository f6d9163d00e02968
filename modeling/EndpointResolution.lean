import EndpointResolution.Document.Compile
import EndpointResolution.Json.Writer
import EndpointResolution.Partition.Json
import EndpointResolution.Registry
import EndpointResolution.Resolver
import EndpointResolution.Proofs.DecisivePath
import EndpointResolution.Proofs.FreeNames
import EndpointResolution.Proofs.LocalBindings
import EndpointResolution.Proofs.Visits
import EndpointResolution.Proofs.TraceOrder
import EndpointResolution.Proofs.ExpressionErrors
import EndpointResolution.Proofs.TraceEndings
import EndpointResolution.Proofs.Binding
import EndpointResolution.Proofs.StaticScope
import EndpointResolution.Proofs.PathGrammar
import EndpointResolution.Proofs.TemplateGrammar
import EndpointResolution.Proofs.DocumentValidity
import EndpointResolution.Proofs.JsonStructure
import EndpointResolution.Proofs.ValueJson
import EndpointResolution.Proofs.ParameterJson
import EndpointResolution.Proofs.ExpressionJson
import EndpointResolution.Proofs.RuleJson
import EndpointResolution.Proofs.RuleSetJson
import EndpointResolution.Proofs.ParameterLayers
import EndpointResolution.Proofs.RegistryHistory
import EndpointResolution.Proofs.ResolvedEndpoints
import EndpointResolution.Proofs.CheckedExpressions
import EndpointResolution.Proofs.AcceptedRuleSets
import EndpointResolution.Proofs.AddedBindings
import EndpointResolution.Proofs.ResolutionAttempts
import EndpointResolution.Proofs.ArnGrammar
import EndpointResolution.Proofs.FlattenedTrees
import EndpointResolution.Proofs.UnusedBindings
import EndpointResolution.Proofs.FirstFault
import EndpointResolution.Proofs.FunctionResults
import EndpointResolution.Proofs.HostLabels
import EndpointResolution.Proofs.RebuiltAddresses
import EndpointResolution.Proofs.AttributeAccess
import EndpointResolution.Proofs.StandardPartitions
import EndpointResolution.Proofs.ArnLookups
import EndpointResolution.Proofs.PercentDecoding
import EndpointResolution.Proofs.Substrings
import EndpointResolution.Proofs.EndpointTemplates
import EndpointResolution.Proofs.BuiltTemplates
import EndpointResolution.Proofs.ExpressionForms
import EndpointResolution.Proofs.MemberOrder
import EndpointResolution.Proofs.ReorderedDocuments
import EndpointResolution.Proofs.BuiltParameters
import EndpointResolution.Proofs.WrittenPaths
import EndpointResolution.Proofs.JoinedPaths
import EndpointResolution.Proofs.EnvironmentWrites
