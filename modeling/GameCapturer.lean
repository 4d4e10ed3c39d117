import GameCapturer.CopyLoop
import GameCapturer.Foundation.StepFunction
import GameCapturer.PackedFrame
import GameCapturer.SaveFrame
import GameCapturer.ServerRun
import GameCapturer.Foundation.SharedRegister
import GameCapturer.Link
import GameCapturer.Mirror
import GameCapturer.Tearing
import GameCapturer.Foundation.CompletionQueue
import GameCapturer.ReadLoop
import GameCapturer.CompletionAccounting
import GameCapturer.Foundation.CallSequence
import GameCapturer.Session
import GameCapturer.FailSafe
import GameCapturer.Foundation.LinkedRing
import GameCapturer.Framework.IntrusiveList
import GameCapturer.Framework.Address
import GameCapturer.Foundation.StructStore
import GameCapturer.Framework.AddressList
import GameCapturer.Framework.AddressTable
import GameCapturer.Framework.Provider
import GameCapturer.Framework.Registry
import GameCapturer.Framework.AddressScan
import GameCapturer.Framework.Bookkeeping
import GameCapturer.Framework.Lookup
import GameCapturer.Foundation.ChangeNotification
import GameCapturer.Foundation.SpinLock
import GameCapturer.Framework.Startup
import GameCapturer.Framework.StartupRuns
import GameCapturer.Framework.Updates
import GameCapturer.Framework.UpdatesRuns
import GameCapturer.Foundation.PlaceAssertion
import GameCapturer.Framework.Loading
import GameCapturer.ReadProgress
import GameCapturer.Launch
import GameCapturer.System
