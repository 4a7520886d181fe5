import MqttGateway.Library.Machine
import MqttGateway.Library.Dict
import MqttGateway.Library.Utf8
import MqttGateway.Library.Bounded
import MqttGateway.Library.Recency
import MqttGateway.Library.Effect
import MqttGateway.Library.Scope
import MqttGateway.Library.Separated
import MqttGateway.Library.Hex
import MqttGateway.Library.Template
import MqttGateway.Library.LevelPattern
import MqttGateway.Library.PatternOrder
import MqttGateway.Python
import MqttGateway.Core.Config
import MqttGateway.Core.TopicLists
import MqttGateway.Core.Levels
import MqttGateway.Core.Topics
import MqttGateway.Core.Matching
import MqttGateway.Core.Grammar
import MqttGateway.Core.Inclusion
import MqttGateway.Core.AclAlgebra
import MqttGateway.Core.Passwords
import MqttGateway.Core.Auth
import MqttGateway.Core.Tokens
import MqttGateway.Mqtt.Client
import MqttGateway.Mqtt.Session
import MqttGateway.Mqtt.HandOff
import MqttGateway.Mqtt.Drains
import MqttGateway.Mqtt.Shutdown
import MqttGateway.Mqtt.CertificateKeys
import MqttGateway.Mqtt.TlsPolicy
import MqttGateway.Services.Registry
import MqttGateway.Services.RegistryRuns
import MqttGateway.Services.Hub
import MqttGateway.Services.Statistics
import MqttGateway.Services.StatisticsRuns
import MqttGateway.Services.RetainedQuery
import MqttGateway.Api.Stream
import MqttGateway.Api.StreamSteps
import MqttGateway.Api.StreamOrder
import MqttGateway.Api.StreamEnd
import MqttGateway.Api.StreamAccess
import MqttGateway.Api.StreamFrames
import MqttGateway.Api.StreamCleanup
import MqttGateway.Api.Rest
import MqttGateway.Gateway.System
import MqttGateway.Gateway.Ownership
import MqttGateway.Gateway.RetainedOutcome
import MqttGateway.Gateway.StreamOutcome
import MqttGateway.Gateway.AccessWindow
import MqttGateway.Gateway.AclSafety
import MqttGateway.Gateway.Process
import MqttGateway.Gateway.Subscribed
import MqttGateway.Gateway.EndToEnd
import MqttGateway.Gateway.Complete
import MqttGateway.Gateway.Announced
import MqttGateway.Gateway.Cleanup
import MqttGateway.Gateway.StreamGap
import MqttGateway.Gateway.Application
import MqttGateway.Gateway.LoginTrace
import MqttGateway.Gateway.Endpoints
import MqttGateway.Gateway.Lifespan
import MqttGateway.Gateway.LifespanRuns
