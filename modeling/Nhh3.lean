import Nhh3.Generations
import Nhh3.Routing
import Nhh3.Integrity
import Nhh3.Completion
import Nhh3.Retry
import Nhh3.Batches
import Nhh3.Handles
import Nhh3.Abort
import Nhh3.Resources
import Nhh3.Host
import Nhh3.Queues
import Nhh3.Causes
import Nhh3.ErrorCallbacks
import Nhh3.Layout
import Nhh3.Totals
import Nhh3.Progress
import Nhh3.Concurrency
import Nhh3.Headers
import Nhh3.Bodies
import Nhh3.Starting
import Nhh3.Network
import Nhh3.Migration
import Nhh3.Attempts
import Nhh3.Unread
import Nhh3.Sessions
import Nhh3.Manager
import Nhh3.Responses
import Nhh3.Events
import Nhh3.Delivery
import Nhh3.EarlyData
import Nhh3.Continuation
import Nhh3.Teardown
import Nhh3.Options
import Nhh3.Client
import Nhh3.Failures
