import ChromiumIos.Navigation.PendingItem
import ChromiumIos.Navigation.UniqueIds
import ChromiumIos.Navigation.HistoryOffsets
import ChromiumIos.Navigation.SessionRestore
import ChromiumIos.WebStateList.SerializationRoundTrip
import ChromiumIos.Net.CookieCallbacks
import ChromiumIos.Net.ProxyWithClientThread
import ChromiumIos.Ui.TabSwitcherUtils
import ChromiumIos.Web.RequestTrackerTrim
import ChromiumIos.Sessions.SessionServiceIOS
import ChromiumIos.Ui.TabSwitcherModel
import ChromiumIos.Ui.ChromeBroadcaster
import ChromiumIos.PhysicalWeb.PhysicalWebScanner
import ChromiumIos.Snapshots.SnapshotCache
import ChromiumIos.ReadingList.DownloadOutcome
import ChromiumIos.Omaha.OmahaService
import ChromiumIos.BrowsingData.IOSChromeBrowsingDataRemover
import ChromiumIos.Ui.ContentSuggestionsCollectionUpdater
import ChromiumIos.Ui.HistoryEntryInserter
import ChromiumIos.Ui.HistoryServiceFacade
import ChromiumIos.Ui.DialogAnswers
import ChromiumIos.Ui.ContextualSearchMutations
import ChromiumIos.Web.URLDataManagerIOSBackend
import ChromiumIos.Bots.TestLaunch
import ChromiumIos.Autofill.SuggestionOwnership
import ChromiumIos.Passwords.FilledAgain
import ChromiumIos.Web.DOMAlteringLock
import ChromiumIos.App.DeferredBlockFates
import ChromiumIos.App.InstallationRegistrations
import ChromiumIos.Payments.PaymentPromises
import ChromiumIos.U2F.U2FAnswers
import ChromiumIos.Metrics.EvictedTabs
import ChromiumIos.ReadingList.OfflineFallback
import ChromiumIos.Spotlight.SpotlightConvergence
import ChromiumIos.Navigation.SameDocument
import ChromiumIos.Net.CookieHeaderOrder
import ChromiumIos.Web.RequestTrackerProgress
import ChromiumIos.Net.ResponseBody
import ChromiumIos.Web.RequestGroupUtil
import ChromiumIos.Payments.PaymentRequest
import ChromiumIos.Web.WebUIInlining
import ChromiumIos.Bookmarks.NodeVectors
import ChromiumIos.FindInPage.NextAndPrevious
import ChromiumIos.ReadingList.Reconnections
import ChromiumIos.Ui.PreloadTurns
import ChromiumIos.Bookmarks.MoveBookmarks
import ChromiumIos.Bookmarks.VisibleFolders
import ChromiumIos.Net.ProtocolHandlerUtil
import ChromiumIos.ReadingList.LocalImages
import ChromiumIos.Ui.CardStackOrder
import ChromiumIos.FindInPage.ClearedPage
import ChromiumIos.Web.AutoReloadController
import ChromiumIos.Web.SanitizedValues
import ChromiumIos.Ui.TappedCharacter
import ChromiumIos.Ui.ReadingListActions
import ChromiumIos.Ui.TabStripDrag
import ChromiumIos.Ui.TabStripScroll
import ChromiumIos.Navigation.SmoothedTimes
import ChromiumIos.App.ChromeAppStartupParameters
import ChromiumIos.Web.MailtoHandler
import ChromiumIos.Ui.FullScreenController
import ChromiumIos.Common.SubstringOfWidth
