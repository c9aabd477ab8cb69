import Agentgateway.Outcome
import Agentgateway.Primitive
import Agentgateway.Time
import Agentgateway.Types.Proto
import Agentgateway.Types.Agent
import Agentgateway.Types.AgentXds
import Agentgateway.Types.Panics
import Agentgateway.Types.Fields
import Agentgateway.Types.RouteConversion
import Agentgateway.Auth.Config
import Agentgateway.Auth.Jwt
import Agentgateway.Auth.Session
import Agentgateway.Auth.Tokens
import Agentgateway.Auth.Service
import Agentgateway.Auth.Middleware
import Agentgateway.Auth.Pipeline
import Agentgateway.Auth.Handlers
import Agentgateway.Auth.OAuth2
import Agentgateway.Auth.OAuth2Handlers
import Agentgateway.Auth.CookieJar
import Agentgateway.Auth.Browser
