import X11Clipboard.Formats
import X11Clipboard.Registry
import X11Clipboard.Unicode
import X11Clipboard.LineEndings
import X11Clipboard.FromX11
import X11Clipboard.ToX11
import X11Clipboard.RoundTrip
import X11Clipboard.Backend
import X11Clipboard.Transfers
import X11Clipboard.Requests
import X11Clipboard.Cache
import X11Clipboard.Targets
import X11Clipboard.Outputs
import X11Clipboard.Negotiation
import X11Clipboard.Lifecycle
import X11Clipboard.Process
