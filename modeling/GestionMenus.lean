import GestionMenus.Base.Paging
import GestionMenus.Base.Runs
import GestionMenus.Base.IdentityMap
import GestionMenus.Base.Sql
import GestionMenus.Base.Double
import GestionMenus.Base.Lines
import GestionMenus.Base.Overwrite
import GestionMenus.Base.QueryString
import GestionMenus.Base.Memory
import GestionMenus.Store.Schema
import GestionMenus.Store.Repository
import GestionMenus.Store.Queries
import GestionMenus.Store.Search
import GestionMenus.Store.Card
import GestionMenus.Web.Listing
import GestionMenus.Web.Pages
import GestionMenus.Web.Handlers
import GestionMenus.Web.PlatSaving
import GestionMenus.Web.Controls
import GestionMenus.Web.MenuForm
import GestionMenus.Web.Server
import GestionMenus.Web.Atomicity
import GestionMenus.Web.Forms
import GestionMenus.Web.PlatForm
import GestionMenus.Web.Binding
import GestionMenus.Web.Redirect
import GestionMenus.Web.Browser
import GestionMenus.Web.Saving
import GestionMenus.Web.Editing
import GestionMenus.Web.Sessions
import GestionMenus.Web.Detail
import GestionMenus.Web.Links
import GestionMenus.Web.Site
import GestionMenus.Web.Visit
import GestionMenus.Web.Resend
import GestionMenus.Web.Changes
