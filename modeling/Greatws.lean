import Greatws.Basic
import Greatws.Frame.Header
import Greatws.Frame.Callback
import Greatws.Frame.Assembly
import Greatws.Write.Buffer
import Greatws.Write.Message
import Greatws.Write.Uring
import Greatws.Loop.Registry
import Greatws.Loop.Lifecycle
import Greatws.Loop.Read
import Greatws.Loop.Uring
import Greatws.Loop.Poll
import Greatws.Client.Dial
