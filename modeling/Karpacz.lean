import Karpacz.Http.Decimal
import Karpacz.Http.Header
import Karpacz.Http.Message
import Karpacz.Config.Yaml
import Karpacz.Pipeline.Env
import Karpacz.Pipeline.ErrorResponse
import Karpacz.Pipeline.AccessLog
import Karpacz.Pipeline.Handler
import Karpacz.Pipeline.Finish
import Karpacz.Pipeline.Chain
import Karpacz.Pipeline.RequestHandler
import Karpacz.Server.LoggingLoop
import Karpacz.Server.Tls
import Karpacz.Server.EventLoop
import Karpacz.Proof.Dispatch
import Karpacz.Proof.Prepare
import Karpacz.Proof.PostProcessing
import Karpacz.Proof.ResponseHeaders
import Karpacz.Proof.Logging
import Karpacz.Proof.RunShape
import Karpacz.Proof.ErrorPages
import Karpacz.Proof.CombinedFormat
import Karpacz.Proof.LoggingLoop
import Karpacz.Proof.Tls
import Karpacz.Proof.EventLoop
import Karpacz.Modules.XForwardedFor
